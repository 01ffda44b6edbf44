/-!
# Tables in insertion order

A table holds at most one entry for a key. A new key goes to the end; a known key keeps its place
and takes the new value. The entries are the whole state, so equal tables list the same entries in
the same order.
-/

namespace LivePreview

variable {κ υ : Type} [DecidableEq κ]

/-- Set the value of `k` in a list of entries, in place or at the end. -/
def putEntry (k : κ) (v : υ) : List (κ × υ) → List (κ × υ)
  | [] => [(k, v)]
  | e :: es => if e.1 = k then (k, v) :: es else e :: putEntry k v es

theorem keys_putEntry (k : κ) (v : υ) (es : List (κ × υ)) :
    (putEntry k v es).map (·.1) =
      if k ∈ es.map (·.1) then es.map (·.1) else es.map (·.1) ++ [k] := by
  induction es with
  | nil => simp [putEntry]
  | cons e es ih =>
    by_cases h : e.1 = k
    · simp [putEntry, h]
    · have h' : ¬ k = e.1 := fun x => h x.symm
      simp only [putEntry, h, if_false, List.map_cons, ih, List.mem_cons, h', false_or]
      split <;> simp

theorem nodup_putEntry (k : κ) (v : υ) {es : List (κ × υ)} (h : (es.map (·.1)).Nodup) :
    ((putEntry k v es).map (·.1)).Nodup := by
  rw [keys_putEntry]
  split
  · exact h
  · next hk =>
    rw [List.nodup_append]
    exact ⟨h, by simp, by
      intro a ha b hb
      have : b = k := by simpa using hb
      subst this
      exact fun e => hk (e ▸ ha)⟩

theorem putEntry_of_not_mem {k : κ} {es : List (κ × υ)} (h : k ∉ es.map (·.1)) (v : υ) :
    putEntry k v es = es ++ [(k, v)] := by
  induction es with
  | nil => rfl
  | cons e es ih =>
    rw [List.map_cons, List.mem_cons, not_or] at h
    rw [putEntry, if_neg (Ne.symm h.1), ih h.2]
    rfl

/-- Setting a known key to its old value undoes another setting. -/
theorem putEntry_putEntry {k : κ} {old : υ} {es : List (κ × υ)}
    (h : (es.find? fun e => e.1 = k).map (·.2) = some old) (v : υ) :
    putEntry k old (putEntry k v es) = es := by
  induction es with
  | nil => cases h
  | cons e es ih =>
    obtain ⟨a, b⟩ := e
    by_cases hk : a = k
    · subst hk
      have hv : b = old := by simpa using h
      simp [putEntry, hv]
    · have hes : (es.find? fun e => e.1 = k).map (·.2) = some old := by simpa [hk] using h
      simp [putEntry, hk, ih hes]

theorem putEntry_self {k : κ} {v : υ} {es : List (κ × υ)}
    (h : (es.find? fun e => e.1 = k).map (·.2) = some v) : putEntry k v es = es := by
  induction es with
  | nil => cases h
  | cons e es ih =>
    obtain ⟨a, b⟩ := e
    by_cases hk : a = k
    · subst hk
      have hv : b = v := by simpa using h
      rw [putEntry, if_pos rfl, hv]
    · have hes : (es.find? fun e => e.1 = k).map (·.2) = some v := by simpa [hk] using h
      rw [putEntry, if_neg hk, ih hes]

/-- Settings of two keys commute if one of them is known. -/
theorem putEntry_comm {k l : κ} {es : List (κ × υ)} (hkl : k ≠ l) (hk : k ∈ es.map (·.1))
    (v w : υ) : putEntry k v (putEntry l w es) = putEntry l w (putEntry k v es) := by
  induction es with
  | nil => cases hk
  | cons e es ih =>
    by_cases hek : e.1 = k
    · subst hek
      simp [putEntry, hkl]
    · by_cases hel : e.1 = l
      · subst hel
        simp [putEntry, hek]
      · have hes : k ∈ es.map (·.1) := (List.mem_cons.mp hk).resolve_left (Ne.symm hek)
        simp [putEntry, hek, hel, ih hes]

theorem mem_putEntry {k : κ} {v : υ} {e : κ × υ} {es : List (κ × υ)} (h : e ∈ putEntry k v es) :
    e = (k, v) ∨ e ∈ es := by
  induction es with
  | nil => exact .inl (List.mem_singleton.mp h)
  | cons f fs ih =>
    rw [putEntry] at h
    split at h
    · exact (List.mem_cons.mp h).imp_right (List.mem_cons_of_mem f)
    · rcases List.mem_cons.mp h with rfl | h
      · exact .inr List.mem_cons_self
      · exact (ih h).imp_right (List.mem_cons_of_mem f)

/-- A setting leaves the new entry among old ones. -/
theorem exists_putEntry (k : κ) (v : υ) (es : List (κ × υ)) :
    ∃ first others, putEntry k v es = first ++ (k, v) :: others ∧
      ∀ e ∈ first ++ others, e ∈ es := by
  induction es with
  | nil => exact ⟨[], [], rfl, fun e he => he⟩
  | cons e es ih =>
    rw [putEntry]
    split
    · exact ⟨[], es, rfl, fun f hf => List.mem_cons_of_mem e hf⟩
    · obtain ⟨first, others, hput, hold⟩ := ih
      refine ⟨e :: first, others, by rw [hput, List.cons_append], fun f hf => ?_⟩
      rcases List.mem_cons.mp hf with rfl | hf
      · exact List.mem_cons_self
      · exact List.mem_cons_of_mem e (hold f hf)

/-- Entries with distinct keys, in the order in which the keys first came. -/
structure Table (κ υ : Type) where
  entries : List (κ × υ)
  nodup : (entries.map (·.1)).Nodup

namespace Table

omit [DecidableEq κ] in
theorem ext {s t : Table κ υ} (h : s.entries = t.entries) : s = t := by
  cases s; cases t; cases h; rfl

def empty : Table κ υ := ⟨[], List.nodup_nil⟩

instance : EmptyCollection (Table κ υ) := ⟨empty⟩

instance : Inhabited (Table κ υ) := ⟨empty⟩

def keys (t : Table κ υ) : List κ := t.entries.map (·.1)

def values (t : Table κ υ) : List υ := t.entries.map (·.2)

def size (t : Table κ υ) : Nat := t.entries.length

def get? (t : Table κ υ) (k : κ) : Option υ := (t.entries.find? fun e => e.1 = k).map (·.2)

def contains (t : Table κ υ) (k : κ) : Bool := t.keys.contains k

def insert (t : Table κ υ) (k : κ) (v : υ) : Table κ υ :=
  ⟨putEntry k v t.entries, nodup_putEntry k v t.nodup⟩

/-- Drop a key with its value. -/
def erase (t : Table κ υ) (k : κ) : Table κ υ :=
  ⟨t.entries.filter fun e => e.1 ≠ k, t.nodup.sublist (List.filter_sublist.map _)⟩

/-- Later entries of one key replace earlier ones, at the place of the first. -/
def ofList (es : List (κ × υ)) : Table κ υ := es.foldl (fun t e => t.insert e.1 e.2) empty

theorem keys_insert (t : Table κ υ) (k : κ) (v : υ) :
    (t.insert k v).keys = if k ∈ t.keys then t.keys else t.keys ++ [k] :=
  keys_putEntry k v t.entries

theorem find?_putEntry (k : κ) (v : υ) (es : List (κ × υ)) (l : κ) :
    ((putEntry k v es).find? fun e => e.1 = l).map (·.2) =
      if k = l then some v else (es.find? fun e => e.1 = l).map (·.2) := by
  induction es with
  | nil => by_cases h : k = l <;> simp [putEntry, h]
  | cons e es ih =>
    rw [putEntry]
    split
    · next h => by_cases hl : k = l <;> simp [h, hl]
    · next h =>
      rw [List.find?_cons, List.find?_cons]
      by_cases hl : e.1 = l
      · have : ¬ k = l := fun x => h (hl.trans x.symm)
        simp [hl, this]
      · simpa [hl] using ih

theorem get?_insert (t : Table κ υ) (k : κ) (v : υ) (l : κ) :
    (t.insert k v).get? l = if k = l then some v else t.get? l :=
  find?_putEntry k v t.entries l

theorem entries_insert_of_not_mem {t : Table κ υ} {k : κ} (h : k ∉ t.keys) (v : υ) :
    (t.insert k v).entries = t.entries ++ [(k, v)] := putEntry_of_not_mem h v

theorem mem_entries_insert {t : Table κ υ} {k : κ} {v : υ} {e : κ × υ}
    (h : e ∈ (t.insert k v).entries) : e = (k, v) ∨ e ∈ t.entries := mem_putEntry h

theorem exists_entries_insert (t : Table κ υ) (k : κ) (v : υ) :
    ∃ first others, (t.insert k v).entries = first ++ (k, v) :: others ∧
      ∀ e ∈ first ++ others, e ∈ t.entries := exists_putEntry k v t.entries

/-- Dropping a key that was new undoes its insertion. -/
theorem erase_insert {t : Table κ υ} {k : κ} (h : k ∉ t.keys) (v : υ) :
    (t.insert k v).erase k = t := by
  apply ext
  have hkept : t.entries.filter (fun e => decide (e.1 ≠ k)) = t.entries := by
    rw [List.filter_eq_self]
    intro e he
    have : e.1 ≠ k := fun hk => h (hk ▸ List.mem_map_of_mem he)
    simpa using this
  change (t.insert k v).entries.filter (fun e => decide (e.1 ≠ k)) = t.entries
  rw [entries_insert_of_not_mem h, List.filter_append, hkept]
  simp

/-- Inserting the old value of a known key undoes an insertion. -/
theorem insert_insert {t : Table κ υ} {k : κ} {old : υ} (h : t.get? k = some old) (v : υ) :
    (t.insert k v).insert k old = t := ext (putEntry_putEntry h v)

theorem insert_self {t : Table κ υ} {k : κ} {v : υ} (h : t.get? k = some v) :
    t.insert k v = t := ext (putEntry_self h)

/-- A known key keeps its place, so that it does not matter which of two keys is set first. -/
theorem insert_comm {t : Table κ υ} {k l : κ} (hkl : k ≠ l) (hk : k ∈ t.keys) (v w : υ) :
    (t.insert l w).insert k v = (t.insert k v).insert l w := ext (putEntry_comm hkl hk v w)

theorem get?_eq_none_iff {t : Table κ υ} {k : κ} : t.get? k = none ↔ k ∉ t.keys := by
  rw [get?, Option.map_eq_none_iff, List.find?_eq_none, keys, List.mem_map]
  constructor
  · rintro h ⟨e, he, rfl⟩
    exact h e he (decide_eq_true rfl)
  · intro h e he hk
    exact h ⟨e, he, of_decide_eq_true hk⟩

theorem contains_eq_isSome (t : Table κ υ) (k : κ) : t.contains k = (t.get? k).isSome := by
  rw [Bool.eq_iff_iff, contains, List.contains_iff_mem, Option.isSome_iff_ne_none, ne_eq,
    get?_eq_none_iff, Classical.not_not]

theorem get?_mk_cons (e : κ × υ) (es : List (κ × υ)) (h : ((e :: es).map (·.1)).Nodup) (k : κ) :
    (Table.mk (e :: es) h).get? k =
      if e.1 = k then some e.2 else (Table.mk es (List.nodup_cons.mp h).2).get? k := by
  by_cases hk : e.1 = k <;> simp [get?, hk]

/-- The entries are exactly what the keys lead to. -/
theorem mem_entries_iff {t : Table κ υ} {k : κ} {v : υ} :
    (k, v) ∈ t.entries ↔ t.get? k = some v := by
  obtain ⟨es, hes⟩ := t
  induction es with
  | nil => simp [get?]
  | cons e es ih =>
    obtain ⟨a, b⟩ := e
    obtain ⟨ha, htail⟩ := List.nodup_cons.mp hes
    rw [get?_mk_cons]
    by_cases hk : a = k
    · subst hk
      have hnone : (a, v) ∉ es := fun h => ha (List.mem_map.mpr ⟨_, h, rfl⟩)
      simp [hnone, eq_comm]
    · simpa [hk, Ne.symm hk] using ih htail

theorem mem_keys_of_get? {t : Table κ υ} {k : κ} {v : υ} (h : t.get? k = some v) : k ∈ t.keys :=
  List.mem_map_of_mem (mem_entries_iff.mpr h)

theorem exists_get?_of_mem_keys {t : Table κ υ} {k : κ} (h : k ∈ t.keys) : ∃ v, t.get? k = some v := by
  obtain ⟨⟨l, v⟩, he, rfl⟩ := List.mem_map.mp h
  exact ⟨v, mem_entries_iff.mp he⟩

end Table

end LivePreview
