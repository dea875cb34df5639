import SubswapProvider.Library.Radix

/-!
# The same number in another base, zeros in front kept

A list of digits is written in another base as the number it stands for, and each leading zero as a
leading zero. Then nothing is lost, and the way back is the same (`rebase_rebase`).
-/

namespace SubswapProvider.Radix

/-- The digits of a number, the highest first; zero has none. -/
def digits (b n : Nat) : List Nat := (Nat.digits b n).reverse

/-- Write digits of base `b` in base `c`. -/
def rebase (b c : Nat) (l : List Nat) : List Nat :=
  List.replicate (l.takeWhile (· = 0)).length 0 ++ digits c (value b (l.dropWhile (· = 0)))

variable {b c : Nat} {l m : List Nat}

theorem value_digits (b n : Nat) : value b (digits b n) = n := by
  unfold value digits
  rw [List.reverse_reverse, Nat.ofDigits_digits]

theorem digits_lt (hb : 1 < b) {n v : Nat} (hv : v ∈ digits b n) : v < b :=
  Nat.digits_lt_base hb (List.mem_reverse.mp hv)

/-- **The first digit** of a number with `k + 1` digits. -/
theorem head_digits {k n : Nat} (hb : 1 < b) (hlow : b ^ k ≤ n) (hhigh : n < b ^ (k + 1)) :
    (digits b n).head? = some (n / b ^ k) := by
  have hpos : 0 < b ^ k := Nat.pow_pos (by omega)
  have hlen : (digits b n).length = k + 1 := by
    unfold digits
    rw [List.length_reverse, Nat.length_digits b n hb (by omega),
      Nat.log_eq_of_pow_le_of_lt_pow hlow hhigh]
  have hlt : ∀ v ∈ digits b n, v < b := fun v hv => digits_lt hb hv
  have hvalue := value_digits b n
  cases hdigits : digits b n with
  | nil =>
    rw [hdigits] at hlen
    cases hlen
  | cons d l =>
    rw [hdigits] at hlen hlt hvalue
    have hl : l.length = k := Nat.succ.inj hlen
    have hrest := value_lt hb fun v hv => hlt v (List.mem_cons_of_mem d hv)
    rw [value_cons, hl, Nat.mul_comm] at hvalue
    rw [hl] at hrest
    rw [List.head?_cons, ← hvalue, Nat.mul_add_div hpos, Nat.div_eq_of_lt hrest, Nat.add_zero]

/-- A list that does not begin with a zero. -/
def Headed (l : List Nat) : Prop := ∀ v ∈ l.head?, v ≠ 0

theorem headed_digits (b n : Nat) : Headed (digits b n) := by
  intro v hv
  unfold digits at hv
  rw [List.head?_reverse] at hv
  obtain ⟨hne, rfl⟩ := List.mem_getLast?_eq_getLast hv
  apply Nat.getLast_digit_ne_zero
  rintro rfl
  simp at hne

theorem digits_value (hb : 1 < b) (hl : ∀ v ∈ l, v < b) (hhead : Headed l) :
    digits b (value b l) = l := by
  unfold digits value
  rw [Nat.digits_ofDigits b hb, List.reverse_reverse]
  · intro v hv
    exact hl v (List.mem_reverse.mp hv)
  · intro hne
    rw [List.getLast_reverse]
    exact hhead _ (List.head_mem_head? _)

theorem headed_dropWhile (l : List Nat) : Headed (l.dropWhile (· = 0)) := by
  intro v hv
  have := List.head?_dropWhile_not (fun v => decide (v = 0)) l
  rw [Option.mem_def.mp hv] at this
  simpa using this

/-- Zeros in front are told apart from the digits behind them. -/
theorem takeWhile_zeros (k : Nat) (h : Headed l) :
    (List.replicate k 0 ++ l).takeWhile (· = 0) = List.replicate k 0 ∧
      (List.replicate k 0 ++ l).dropWhile (· = 0) = l := by
  induction k with
  | zero =>
    cases l with
    | nil => simp
    | cons v l =>
      have hv : v ≠ 0 := h v rfl
      simp [hv]
  | succ k ih => simp [List.replicate_succ, ih.1, ih.2]

theorem rebase_lt (hc : 1 < c) {v : Nat} (hv : v ∈ rebase b c l) : v < c := by
  rcases List.mem_append.mp hv with hv | hv
  · rw [List.eq_of_mem_replicate hv]
    omega
  · exact digits_lt hc hv

/-- **Writing digits in another base and back again.** -/
theorem rebase_rebase (hb : 1 < b) (hl : ∀ v ∈ l, v < b) : rebase c b (rebase b c l) = l := by
  have hzeros : l.takeWhile (· = 0) = List.replicate (l.takeWhile (· = 0)).length 0 := by
    apply List.eq_replicate_iff.mpr
    refine ⟨rfl, fun v hv => ?_⟩
    simpa using List.all_eq_true.mp List.all_takeWhile v hv
  obtain ⟨htake, hdrop⟩ := takeWhile_zeros (l.takeWhile (· = 0)).length
    (headed_digits c (value b (l.dropWhile (· = 0))))
  have hrest : digits b (value b (l.dropWhile (· = 0))) = l.dropWhile (· = 0) :=
    digits_value hb (fun v hv => hl v (List.dropWhile_sublist _ |>.mem hv)) (headed_dropWhile l)
  show List.replicate ((rebase b c l).takeWhile (· = 0)).length 0 ++
    digits b (value c ((rebase b c l).dropWhile (· = 0))) = l
  unfold rebase
  rw [htake, hdrop, value_digits, hrest, List.length_replicate, ← hzeros, List.takeWhile_append_dropWhile]

end SubswapProvider.Radix
