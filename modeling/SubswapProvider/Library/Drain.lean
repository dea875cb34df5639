import Mathlib

/-!
# Reading pages until an amount is found

A search that reads a list page by page, collects what it finds on each page and stops when what it has
found is worth the amount it looks for, or when it has read as many pages as it may. `reads` are the pages
it reads, `drain` is what it finds on them.

Two rules tell where the search stops. Pages that are worth less than the amount are all read
(`reads_append`); and whatever is found behind some pages shows that these are worth less than the
amount (`drain_reaches`).
-/

namespace SubswapProvider.Drain

variable {ε α : Type} (found : ε → List α) (value : α → Nat)

/-- What some finds are worth. -/
def worth (l : List α) : Nat := (l.map value).sum

/-- The pages that are read until what is found is worth `amount`, at most `limit`. -/
def reads : List ε → Nat → Int → List ε
  | [], _, _ => []
  | _ :: _, 0, _ => []
  | page :: pages, limit + 1, amount =>
    if 0 < amount then page :: reads pages limit (amount - worth value (found page)) else []

/-- What is found on them. -/
def drain (pages : List ε) (limit : Nat) (amount : Int) : List α :=
  (reads found value pages limit amount).flatMap found

@[simp] theorem worth_nil : worth value [] = 0 := rfl

@[simp] theorem worth_append (l l' : List α) :
    worth value (l ++ l') = worth value l + worth value l' := by
  unfold worth
  rw [List.map_append, List.sum_append]

@[simp] theorem worth_cons (a : α) (l : List α) :
    worth value (a :: l) = value a + worth value l := by
  unfold worth
  rw [List.map_cons, List.sum_cons]

theorem worth_perm {l l' : List α} (h : l.Perm l') : worth value l = worth value l' :=
  (h.map value).sum_eq

theorem worth_filter_add (p : α → Bool) (l : List α) :
    worth value (l.filter p) + worth value (l.filter fun a => !p a) = worth value l := by
  rw [← worth_append]
  exact worth_perm value (List.filter_append_perm p l)

theorem worth_pos {l : List α} : 0 < worth value l ↔ ∃ a ∈ l, 0 < value a := by
  unfold worth
  rw [List.sum_pos_iff_exists_pos_nat]
  simp

theorem worth_map {β : Type} (f : β → α) (l : List β) :
    worth value (l.map f) = worth (fun b => value (f b)) l := by
  unfold worth
  rw [List.map_map]
  rfl

/-- Finds on more pages are worth more. -/
theorem worth_flatMap_le {f g : ε → List α} {pages : List ε}
    (h : ∀ page ∈ pages, worth value (f page) ≤ worth value (g page)) :
    worth value (pages.flatMap f) ≤ worth value (pages.flatMap g) := by
  induction pages with
  | nil => exact le_rfl
  | cons page pages ih =>
    rw [List.flatMap_cons, List.flatMap_cons, worth_append, worth_append]
    exact Nat.add_le_add (h page List.mem_cons_self)
      (ih fun page' h' => h page' (List.mem_cons_of_mem _ h'))

/-! ## The search -/

theorem reads_done {amount : Int} (h : amount ≤ 0) (pages : List ε) (limit : Nat) :
    reads found value pages limit amount = [] := by
  cases pages with
  | nil => rfl
  | cons page pages =>
    cases limit with
    | zero => rfl
    | succ limit => exact if_neg (Int.not_lt.mpr h)

theorem drain_done {amount : Int} (h : amount ≤ 0) (pages : List ε) (limit : Nat) :
    drain found value pages limit amount = [] := by
  unfold drain
  rw [reads_done found value h, List.flatMap_nil]

theorem reads_cons {amount : Int} (h : 0 < amount) (page : ε) (pages : List ε) (limit : Nat) :
    reads found value (page :: pages) (limit + 1) amount =
      page :: reads found value pages limit (amount - worth value (found page)) :=
  if_pos h

theorem drain_cons {amount : Int} (h : 0 < amount) (page : ε) (pages : List ε) (limit : Nat) :
    drain found value (page :: pages) (limit + 1) amount =
      found page ++ drain found value pages limit (amount - worth value (found page)) := by
  unfold drain
  rw [reads_cons found value h, List.flatMap_cons]

theorem mem_of_reads {pages : List ε} {limit : Nat} {amount : Int} {page : ε}
    (h : page ∈ reads found value pages limit amount) : page ∈ pages := by
  induction pages generalizing limit amount with
  | nil => cases h
  | cons first pages ih =>
    cases limit with
    | zero => cases h
    | succ limit =>
      unfold reads at h
      split at h
      · rcases List.mem_cons.mp h with rfl | h
        · exact List.mem_cons_self
        · exact List.mem_cons_of_mem _ (ih h)
      · cases h

theorem mem_of_drain {pages : List ε} {limit : Nat} {amount : Int} {a : α}
    (h : a ∈ drain found value pages limit amount) : a ∈ pages.flatMap found := by
  obtain ⟨page, hpage, ha⟩ := List.mem_flatMap.mp h
  exact List.mem_flatMap.mpr ⟨page, mem_of_reads found value hpage, ha⟩

/-- Pages that are worth less than the amount are all read. -/
theorem reads_append {p q : List ε} {limit : Nat} {amount : Int} (hlimit : p.length ≤ limit)
    (hworth : (worth value (p.flatMap found) : Int) < amount) :
    reads found value (p ++ q) limit amount =
      p ++ reads found value q (limit - p.length) (amount - worth value (p.flatMap found)) := by
  induction p generalizing limit amount with
  | nil => simp
  | cons page p ih =>
    obtain ⟨limit, rfl⟩ : ∃ n, limit = n + 1 := ⟨limit - 1, by simp at hlimit; omega⟩
    rw [List.flatMap_cons, worth_append] at hworth
    push_cast at hworth
    have hamount : 0 < amount := by omega
    rw [List.cons_append, reads_cons found value hamount]
    rw [ih (Nat.le_of_succ_le_succ hlimit) (by omega), List.flatMap_cons, worth_append,
      List.cons_append, List.length_cons, Nat.add_sub_add_right]
    congr 3
    push_cast
    omega

/-- A search that has not found what it looks for has read as many pages as it may. -/
theorem reads_short {pages : List ε} {limit : Nat} {amount : Int}
    (h : (worth value (drain found value pages limit amount) : Int) < amount) :
    reads found value pages limit amount = pages.take limit := by
  induction pages generalizing limit amount with
  | nil => simp [reads]
  | cons page pages ih =>
    cases limit with
    | zero => rfl
    | succ limit =>
      have hamount : 0 < amount := by
        by_contra hle
        rw [drain_done found value (Int.not_lt.mp hle)] at h
        exact hle (by simpa using h)
      rw [drain_cons found value hamount, worth_append] at h
      push_cast at h
      rw [reads_cons found value hamount, ih (by omega), List.take_succ_cons]

/-- Pages that are not worth the amount are all that the search reads. -/
theorem reads_take {pages : List ε} {limit : Nat} {amount : Int}
    (h : (worth value ((pages.take limit).flatMap found) : Int) < amount) :
    reads found value pages limit amount = pages.take limit := by
  have happend := reads_append found value (q := pages.drop limit) (List.length_take_le limit pages) h
  rw [List.take_append_drop] at happend
  rw [happend]
  have hrest : reads found value (pages.drop limit) (limit - (pages.take limit).length)
      (amount - worth value ((pages.take limit).flatMap found)) = [] := by
    by_cases hlen : limit ≤ pages.length
    · rw [List.length_take_of_le hlen, Nat.sub_self]
      cases pages.drop limit <;> rfl
    · rw [List.drop_eq_nil_of_le (by omega)]
      rfl
  rw [hrest, List.append_nil]

/-- Whatever is found behind some pages, and not on them, shows that they are worth less than the amount
and no more than the search may read. -/
theorem drain_reaches {p q : List ε} {limit : Nat} {amount : Int} {a : α}
    (h : a ∈ drain found value (p ++ q) limit amount) (hnot : a ∉ p.flatMap found) :
    p.length < limit ∧ (worth value (p.flatMap found) : Int) < amount := by
  induction p generalizing limit amount with
  | nil =>
    rw [List.nil_append] at h
    have hamount : 0 < amount := by
      by_contra hle
      rw [drain_done found value (Int.not_lt.mp hle)] at h
      cases h
    refine ⟨?_, by simpa using hamount⟩
    cases limit with
    | succ limit => exact Nat.succ_pos limit
    | zero =>
      cases q with
      | nil => cases h
      | cons page q => cases h
  | cons page p ih =>
    rw [List.flatMap_cons, List.mem_append, not_or] at hnot
    cases limit with
    | zero => cases h
    | succ limit =>
      have hamount : 0 < amount := by
        by_contra hle
        rw [drain_done found value (Int.not_lt.mp hle)] at h
        cases h
      rw [List.cons_append, drain_cons found value hamount] at h
      obtain ⟨hlength, hworth⟩ := ih ((List.mem_append.mp h).resolve_left hnot.1) hnot.2
      rw [List.flatMap_cons, worth_append]
      push_cast
      exact ⟨Nat.succ_lt_succ hlength, by omega⟩

end SubswapProvider.Drain
