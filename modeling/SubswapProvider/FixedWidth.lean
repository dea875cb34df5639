import SubswapProvider.Bolt11

/-!
# Numbers as 5-bit words

`int_to_data5` and `int_from_data5`. Without a width a number is read back and has no leading zero.
With a width it is read back too, but the list never gets its leading zeros: it is padded by
`len(ret) - bit_len // 5`, which is not positive. So it has the width that was asked for only if the
number fills it (`intToData5_exact_iff`).
-/

namespace SubswapProvider.Bolt11

open Radix

theorem digits5_eq (val : Nat) : digits5 val = Nat.digits 32 val := by
  induction val using digits5.induct with
  | case1 =>
    unfold digits5
    simp
  | case2 val hval ih =>
    unfold digits5
    rw [dif_neg hval, ih, Nat.digits_def' (by decide) (Nat.pos_of_ne_zero hval)]

theorem intFromData5_eq (data5 : List Nat) : intFromData5 data5 = value 32 data5 :=
  foldl_eq_value data5

@[simp] theorem intFromData5_digits5 (val : Nat) : intFromData5 (digits5 val).reverse = val := by
  rw [intFromData5_eq, digits5_eq]
  unfold value
  rw [List.reverse_reverse, Nat.ofDigits_digits]

theorem digits5_lt {val d : Nat} (hd : d ∈ digits5 val) : d < 32 := by
  rw [digits5_eq] at hd
  exact Nat.digits_lt_base (by decide) hd

theorem digits5_length_le_iff {val k : Nat} : (digits5 val).length ≤ k ↔ val < 32 ^ k := by
  rw [digits5_eq]
  exact Nat.digits_length_le_iff (by decide) val

/-- The highest digit is not zero. -/
theorem head_digits5 (val : Nat) : (digits5 val).reverse.head? ≠ some 0 := by
  rw [List.head?_reverse, digits5_eq]
  intro hlast
  by_cases hval : val = 0
  · subst hval
    simp at hlast
  · have hne := Nat.digits_ne_nil_iff_ne_zero (b := 32).mpr hval
    rw [List.getLast?_eq_some_getLast hne] at hlast
    exact Nat.getLast_digit_ne_zero 32 hval (Option.some.inj hlast)

/-! ## With a width -/

theorem two_pow_eq {bit_len : Nat} (h : 5 ∣ bit_len) : 2 ^ bit_len = 32 ^ (bit_len / 5) := by
  obtain ⟨k, rfl⟩ := h
  have hbase : 2 ^ 5 = 32 := rfl
  rw [Nat.mul_div_cancel_left k (by decide), pow_mul, hbase]

/-- **Spec of `int_to_data5` with a width**: the width only refuses numbers. -/
theorem intToData5_width (val bit_len : Nat) (h : 5 ∣ bit_len) (hval : val < 2 ^ bit_len) :
    intToData5 val (some bit_len) = .ok (digits5 val).reverse := by
  have hlen : (digits5 val).length ≤ bit_len / 5 := by
    rw [digits5_length_le_iff, ← two_pow_eq h]
    exact hval
  have hsize : val.size ≤ bit_len := Nat.size_le.mpr hval
  unfold intToData5
  dsimp only
  rw [if_neg (by omega), if_neg (by omega), Nat.sub_eq_zero_of_le hlen]
  simp

/-- The number has `bit_len // 5` digits. -/
def Fills (bit_len val : Nat) : Prop := bit_len = 0 ∨ 2 ^ (bit_len - 5) ≤ val

instance (bit_len val : Nat) : Decidable (Fills bit_len val) := by
  unfold Fills
  infer_instance

theorem length_digits5_iff (val bit_len : Nat) (h : 5 ∣ bit_len) (hval : val < 2 ^ bit_len) :
    (digits5 val).length = bit_len / 5 ↔ Fills bit_len val := by
  have hle : (digits5 val).length ≤ bit_len / 5 := by
    rw [digits5_length_le_iff, ← two_pow_eq h]
    exact hval
  unfold Fills
  by_cases hzero : bit_len = 0
  · subst hzero
    simpa using hle
  · have hpow : 2 ^ (bit_len - 5) = 32 ^ (bit_len / 5 - 1) := by
      have hdvd : 5 ∣ bit_len - 5 := Nat.dvd_sub h (Nat.dvd_refl 5)
      rw [two_pow_eq hdvd]
      congr 1
      omega
    have hshort : (digits5 val).length ≤ bit_len / 5 - 1 ↔ val < 2 ^ (bit_len - 5) := by
      rw [hpow]
      exact digits5_length_le_iff
    omega

/-- `int_to_data5` writes a number at the width it is given: with that many words, all of 5 bits, and
such that it is read back. -/
def Exact (val bit_len : Nat) : Prop :=
  ∃ data5, intToData5 val (some bit_len) = .ok data5 ∧ data5.length = bit_len / 5 ∧
    (∀ d ∈ data5, d < 32) ∧ intFromData5 data5 = val

theorem intToData5_exact_iff {val bit_len : Nat} (h : 5 ∣ bit_len) (hval : val < 2 ^ bit_len) :
    Exact val bit_len ↔ Fills bit_len val := by
  have hspec := intToData5_width val bit_len h hval
  rw [← length_digits5_iff val bit_len h hval]
  constructor
  · rintro ⟨data5, hok, hlen, -, -⟩
    rw [hspec] at hok
    cases hok
    rw [← hlen, List.length_reverse]
  · intro hlen
    refine ⟨_, hspec, ?_, ?_, intFromData5_digits5 val⟩
    · rw [List.length_reverse, hlen]
    · intro d hd
      exact digits5_lt (List.mem_reverse.mp hd)

end SubswapProvider.Bolt11
