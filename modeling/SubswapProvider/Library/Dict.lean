import Mathlib

/-!
# Insertion-ordered dictionaries

A dictionary as the source language has it: keys are unique, iteration follows the order of
insertion, overwriting a key keeps its place, popping forgets it. Uniqueness of the keys is a field
of the structure, so no operation can lose it.
-/

namespace SubswapProvider

/-- A dictionary from `κ` to `α`: its items in the order they were inserted. -/
structure Dict (κ α : Type) where
  items : List (κ × α)
  nodup : (items.map Prod.fst).Nodup

namespace Dict

variable {κ α : Type} [DecidableEq κ]

omit [DecidableEq κ] in
@[ext] theorem ext {d e : Dict κ α} (h : d.items = e.items) : d = e := by
  cases d; cases e; cases h; rfl

instance [DecidableEq α] : DecidableEq (Dict κ α) := fun d e =>
  decidable_of_iff (d.items = e.items) ⟨Dict.ext, fun h => h ▸ rfl⟩

/-- `{}`. -/
def empty : Dict κ α := ⟨[], List.nodup_nil⟩

instance : EmptyCollection (Dict κ α) := ⟨empty⟩

def keys (d : Dict κ α) : List κ := d.items.map Prod.fst

/-- `d.get(k)`. -/
def get? (d : Dict κ α) (k : κ) : Option α := d.items.lookup k

/-- `k in d`. -/
def contains (d : Dict κ α) (k : κ) : Bool := (d.get? k).isSome

/-- Overwrite the value of `k` in place. -/
def overwrite (k : κ) (v : α) (l : List (κ × α)) : List (κ × α) :=
  l.map fun p => if p.1 = k then (k, v) else p

theorem map_fst_overwrite (k : κ) (v : α) (l : List (κ × α)) :
    (overwrite k v l).map Prod.fst = l.map Prod.fst := by
  unfold overwrite
  rw [List.map_map]
  apply List.map_congr_left
  intro p _
  by_cases h : p.1 = k
  · simp [h]
  · simp [h]

theorem lookup_eq_none_iff_notMem {l : List (κ × α)} {k : κ} :
    l.lookup k = none ↔ k ∉ l.map Prod.fst := by
  rw [List.lookup_eq_none_iff]
  constructor
  · intro h hk
    obtain ⟨p, hp, rfl⟩ := List.mem_map.mp hk
    simpa using h p hp
  · intro h p hp
    simp only [ne_eq, bne_iff_ne]
    intro hk
    exact h (List.mem_map.mpr ⟨p, hp, hk.symm⟩)

/-- `d[k] = v`: an existing key keeps its place, a new one goes to the end. -/
def set (d : Dict κ α) (k : κ) (v : α) : Dict κ α :=
  if h : k ∈ d.keys then
    ⟨overwrite k v d.items, by rw [map_fst_overwrite]; exact d.nodup⟩
  else
    ⟨d.items ++ [(k, v)], by
      rw [List.map_append]
      exact d.nodup.append (List.nodup_singleton k) (by simpa [keys] using h)⟩

/-- `d.pop(k, None)`, the dictionary after it. -/
def pop (d : Dict κ α) (k : κ) : Dict κ α :=
  ⟨d.items.filter (fun p => p.1 ≠ k), (d.nodup.sublist (List.filter_sublist.map _))⟩

/-- Apply `f` to every value, keeping keys and order. -/
def mapVals {β : Type} (f : α → β) (d : Dict κ α) : Dict κ β :=
  ⟨d.items.map fun p => (p.1, f p.2), by rw [List.map_map]; exact d.nodup⟩

/-- Change the value of `k`, if it has one. -/
def modify (d : Dict κ α) (k : κ) (f : α → α) : Dict κ α :=
  ⟨d.items.map fun p => if p.1 = k then (p.1, f p.2) else p, by
    rw [List.map_map, List.map_congr_left (g := Prod.fst)]
    · exact d.nodup
    · intro p _
      by_cases h : p.1 = k <;> simp [h]⟩

/-- Number the values in order. -/
def enumerate (d : Dict κ α) : Dict κ Nat :=
  ⟨d.items.zipIdx.map fun p => (p.1.1, p.2), by
    rw [List.map_map]
    have h : (d.items.zipIdx.map fun p => p.1.1) = d.items.map Prod.fst := by
      rw [show (fun p : (κ × α) × Nat => p.1.1) = Prod.fst ∘ Prod.fst from rfl, ← List.map_map,
        List.zipIdx_map_fst]
    exact h ▸ d.nodup⟩

/-! ## Lookup after an update -/

@[simp] theorem get?_empty (k : κ) : (∅ : Dict κ α).get? k = none := rfl

theorem mem_keys_iff {d : Dict κ α} {k : κ} : k ∈ d.keys ↔ (d.get? k).isSome := by
  unfold keys get?
  rw [Option.isSome_iff_ne_none, ne_eq, lookup_eq_none_iff_notMem, not_not]

theorem get?_eq_none_iff {d : Dict κ α} {k : κ} : d.get? k = none ↔ k ∉ d.keys :=
  lookup_eq_none_iff_notMem

private theorem lookup_overwrite (l : List (κ × α)) (k k' : κ) (v : α) :
    (overwrite k v l).lookup k' =
      if k' = k then (l.lookup k).map (fun _ => v) else l.lookup k' := by
  induction l with
  | nil => by_cases h : k' = k <;> simp [overwrite, h]
  | cons p ps ih =>
    obtain ⟨a, b⟩ := p
    have hcons : overwrite k v ((a, b) :: ps)
        = (if a = k then (k, v) else (a, b)) :: overwrite k v ps := rfl
    rw [hcons]
    by_cases ha : a = k
    · subst ha
      by_cases hk : k' = a
      · subst hk; simp
      · have : (k' == a) = false := by simpa using hk
        simp [List.lookup_cons, this, ih, hk]
    · rw [if_neg ha, List.lookup_cons, List.lookup_cons, List.lookup_cons, ih]
      by_cases hk : k' = k
      · subst hk
        have hka : (k' == a) = false := by simpa using fun h : k' = a => ha h.symm
        simp [hka]
      · simp [hk]

theorem get?_set (d : Dict κ α) (k k' : κ) (v : α) :
    (d.set k v).get? k' = if k' = k then some v else d.get? k' := by
  unfold set get?
  split
  · next h =>
    rw [lookup_overwrite]
    by_cases hk : k' = k
    · have hs : (d.items.lookup k).isSome := mem_keys_iff.mp h
      obtain ⟨u, hu⟩ := Option.isSome_iff_exists.mp hs
      simp [hk, hu]
    · simp [hk]
  · next h =>
    rw [List.lookup_append]
    by_cases hk : k' = k
    · subst hk
      rw [show d.items.lookup k' = none from lookup_eq_none_iff_notMem.mpr h]
      simp
    · have : (k' == k) = false := by simpa using hk
      simp [List.lookup_cons, this, hk]

@[simp] theorem get?_set_self (d : Dict κ α) (k : κ) (v : α) : (d.set k v).get? k = some v := by
  simp [get?_set]

theorem get?_set_ne (d : Dict κ α) {k k' : κ} (v : α) (h : k' ≠ k) :
    (d.set k v).get? k' = d.get? k' := by
  simp [get?_set, h]

private theorem lookup_filter_ne (l : List (κ × α)) (k k' : κ) :
    (l.filter fun p => decide (p.1 ≠ k)).lookup k' = if k' = k then none else l.lookup k' := by
  induction l with
  | nil => simp
  | cons p ps ih =>
    obtain ⟨a, b⟩ := p
    by_cases ha : a = k
    · subst ha
      have hf : List.filter (fun p : κ × α => decide (p.1 ≠ a)) ((a, b) :: ps)
          = List.filter (fun p => decide (p.1 ≠ a)) ps := by simp
      rw [hf, ih]
      by_cases hk : k' = a
      · simp [hk]
      · have : (k' == a) = false := by simpa using hk
        simp [hk, List.lookup_cons, this]
    · have hf : List.filter (fun p : κ × α => decide (p.1 ≠ k)) ((a, b) :: ps)
          = (a, b) :: List.filter (fun p => decide (p.1 ≠ k)) ps := by simp [ha]
      rw [hf, List.lookup_cons, List.lookup_cons, ih]
      by_cases hk : k' = k
      · subst hk
        have : (k' == a) = false := by simpa using fun h : k' = a => ha h.symm
        simp [this]
      · simp [hk]

theorem get?_pop (d : Dict κ α) (k k' : κ) :
    (d.pop k).get? k' = if k' = k then none else d.get? k' :=
  lookup_filter_ne d.items k k'

@[simp] theorem get?_pop_self (d : Dict κ α) (k : κ) : (d.pop k).get? k = none := by
  simp [get?_pop]

theorem get?_pop_ne (d : Dict κ α) {k k' : κ} (h : k' ≠ k) : (d.pop k).get? k' = d.get? k' := by
  simp [get?_pop, h]

/-- What is left after a pop was there before. -/
theorem get?_of_pop {d : Dict κ α} {k k' : κ} {v : α} (h : (d.pop k).get? k' = some v) :
    k' ≠ k ∧ d.get? k' = some v := by
  rw [get?_pop] at h
  split at h
  · cases h
  · next hk => exact ⟨hk, h⟩

private theorem lookup_map_snd {β : Type} (f : α → β) (l : List (κ × α)) (k : κ) :
    (l.map fun p => (p.1, f p.2)).lookup k = (l.lookup k).map f := by
  induction l with
  | nil => rfl
  | cons p ps ih =>
    rw [List.map_cons, List.lookup_cons, List.lookup_cons, ih]
    cases k == p.1 <;> rfl

theorem get?_mapVals {β : Type} (f : α → β) (d : Dict κ α) (k : κ) :
    (d.mapVals f).get? k = (d.get? k).map f :=
  lookup_map_snd f d.items k

private theorem lookup_modify (f : α → α) (l : List (κ × α)) (k k' : κ) :
    (l.map fun p => if p.1 = k then (p.1, f p.2) else p).lookup k'
      = if k' = k then (l.lookup k').map f else l.lookup k' := by
  induction l with
  | nil => simp
  | cons p ps ih =>
    obtain ⟨a, b⟩ := p
    rw [List.map_cons]
    by_cases ha : a = k
    · subst ha
      rw [if_pos rfl, List.lookup_cons, List.lookup_cons, ih]
      by_cases hk : k' = a
      · simp [hk]
      · have : (k' == a) = false := by simpa using hk
        simp [this, hk]
    · rw [if_neg ha, List.lookup_cons, List.lookup_cons, ih]
      by_cases hk : k' = k
      · subst hk
        have : (k' == a) = false := by simpa using fun h : k' = a => ha h.symm
        simp [this]
      · simp [hk]

theorem get?_modify (d : Dict κ α) (k k' : κ) (f : α → α) :
    (d.modify k f).get? k' = if k' = k then (d.get? k').map f else d.get? k' :=
  lookup_modify f d.items k k'

/-- What has been changed under a key is gone when the key is popped. -/
theorem pop_modify (d : Dict κ α) (k : κ) (f : α → α) : (d.modify k f).pop k = d.pop k := by
  apply Dict.ext
  show (d.items.map fun p => if p.1 = k then (p.1, f p.2) else p).filter (fun p => p.1 ≠ k)
    = d.items.filter fun p => p.1 ≠ k
  induction d.items with
  | nil => rfl
  | cons p l ih =>
    rw [List.map_cons, List.filter_cons, List.filter_cons, ih]
    by_cases hp : p.1 = k
    · simp [hp]
    · simp [hp]

theorem mem_of_get? {d : Dict κ α} {k : κ} {v : α} (h : d.get? k = some v) : (k, v) ∈ d.items := by
  obtain ⟨before, after, hitems, -⟩ := List.lookup_eq_some_iff.mp h
  rw [hitems]
  exact List.mem_append_right _ List.mem_cons_self

/-- An item of the dictionary is found. -/
theorem get?_of_mem {d : Dict κ α} {p : κ × α} (h : p ∈ d.items) : d.get? p.1 = some p.2 := by
  obtain ⟨l, hl⟩ := d
  show l.lookup p.1 = some p.2
  have hmem : p ∈ l := h
  have hnodup : (l.map Prod.fst).Nodup := hl
  clear h hl
  induction l with
  | nil => cases hmem
  | cons q l ih =>
    obtain ⟨hq, hl⟩ := List.nodup_cons.mp hnodup
    rw [List.lookup_cons]
    rcases List.mem_cons.mp hmem with rfl | hmem
    · simp
    · have hne : (p.1 == q.1) = false := by
        apply beq_false_of_ne
        intro heq
        exact hq (heq ▸ List.mem_map_of_mem hmem)
      rw [hne]
      exact ih hmem hl

theorem getElem?_of_enumerate {d : Dict κ α} {k : κ} {n : Nat} (h : d.enumerate.get? k = some n) :
    ∃ v, d.items[n]? = some (k, v) := by
  have hmem : (k, n) ∈ d.items.zipIdx.map fun p => (p.1.1, p.2) := mem_of_get? h
  obtain ⟨⟨⟨k', v⟩, n'⟩, hzip, heq⟩ := List.mem_map.mp hmem
  cases heq
  exact ⟨v, List.mem_zipIdx_iff_getElem?.mp hzip⟩

theorem get?_of_enumerate_none {d : Dict κ α} {k : κ} (h : d.enumerate.get? k = none) :
    d.get? k = none := by
  rw [get?_eq_none_iff] at h ⊢
  intro hk
  obtain ⟨p, hp, rfl⟩ := List.mem_map.mp hk
  obtain ⟨n, hn⟩ := List.getElem?_of_mem hp
  apply h
  show p.1 ∈ (d.items.zipIdx.map fun p => (p.1.1, p.2)).map Prod.fst
  rw [List.map_map]
  exact List.mem_map.mpr ⟨(p, n), List.mem_zipIdx_iff_getElem?.mpr hn, rfl⟩

theorem contains_iff {d : Dict κ α} {k : κ} : d.contains k = true ↔ ∃ v, d.get? k = some v :=
  Option.isSome_iff_exists

@[simp] theorem contains_mapVals {β : Type} (f : α → β) (d : Dict κ α) (k : κ) :
    (d.mapVals f).contains k = d.contains k := by
  unfold contains
  rw [get?_mapVals, Option.isSome_map]

@[simp] theorem contains_modify (d : Dict κ α) (k k' : κ) (f : α → α) :
    (d.modify k f).contains k' = d.contains k' := by
  unfold contains
  rw [get?_modify]
  split
  · rw [Option.isSome_map]
  · rfl

theorem contains_set {d : Dict κ α} {k k' : κ} {v : α} (h : (d.set k v).contains k' = true) :
    k' = k ∨ d.contains k' = true := by
  unfold contains at h ⊢
  rw [get?_set] at h
  split at h
  · next hk => exact .inl hk
  · exact .inr h

theorem contains_of_pop {d : Dict κ α} {k k' : κ} (h : (d.pop k).contains k' = true) :
    d.contains k' = true := by
  obtain ⟨v, hv⟩ := contains_iff.mp h
  exact contains_iff.mpr ⟨v, (get?_of_pop hv).2⟩

end Dict

end SubswapProvider
