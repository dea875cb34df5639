import Mathlib

/-!
# A rate and its two roundings

Whole amounts that are converted at a rate: what is taken is rounded down, what is asked for is
rounded up. The two are adjoint, and up to a rate of one what is asked for comes back exactly.

A rate itself may have been rounded, to a number of binary digits (`inBinary`).
-/

namespace SubswapProvider.Rounding

variable {k : Type*} [Field k] [LinearOrder k] [FloorRing k]

/-- What arrives of `s` at the rate `q`. -/
def down (q : k) (s : ℤ) : ℤ := ⌊(s : k) * q⌋

/-- The least amount of which `r` arrives at the rate `q`. -/
def up (q : k) (r : ℤ) : ℤ := ⌈(r : k) / q⌉

/-! ## Binary digits -/

/-- The nearest whole number, and of two nearest ones the even one. -/
def nearestEven (x : k) : ℤ :=
  if x - ⌊x⌋ < 1 / 2 then ⌊x⌋
  else if 1 / 2 < x - ⌊x⌋ then ⌊x⌋ + 1
  else if ⌊x⌋ % 2 = 0 then ⌊x⌋
  else ⌊x⌋ + 1

variable [IsStrictOrderedRing k]

/-- The distance of the numbers with `p` binary digits around `x`. -/
def lastDigit (p : ℕ) (x : k) : k := 2 ^ (Int.log 2 |x| + 1 - p)

/-- The nearest number with `p` binary digits. -/
def inBinary (p : ℕ) (x : k) : k := nearestEven (x / lastDigit p x) * lastDigit p x

omit [IsStrictOrderedRing k] in
theorem nearestEven_nonneg {x : k} (hx : 0 ≤ x) : 0 ≤ nearestEven x := by
  have hfloor : 0 ≤ ⌊x⌋ := Int.floor_nonneg.mpr hx
  unfold nearestEven
  split_ifs
  all_goals omega

theorem inBinary_nonneg (p : ℕ) {x : k} (hx : 0 ≤ x) : 0 ≤ inBinary p x := by
  have hdigit : 0 ≤ lastDigit p x := zpow_nonneg zero_le_two _
  have hwhole := nearestEven_nonneg (div_nonneg hx hdigit)
  exact mul_nonneg (Int.cast_nonneg hwhole) hdigit

/-! ## The two roundings -/

variable {q : k}

theorem galoisConnection (hq : 0 < q) : GaloisConnection (up q) (down q) := by
  intro r s
  unfold up down
  rw [Int.ceil_le, Int.le_floor, div_le_iff₀ hq]

/-- Rounding up adds less than one, and a rate of at most one makes it less still. -/
theorem down_up_le (hq : 0 < q) (hle : q ≤ 1) (r : ℤ) : down q (up q r) ≤ r := by
  unfold down up
  apply Int.lt_add_one_iff.mp
  rw [Int.floor_lt, Int.cast_add, Int.cast_one]
  calc (⌈(r : k) / q⌉ : k) * q
      < ((r : k) / q + 1) * q := mul_lt_mul_of_pos_right (Int.ceil_lt_add_one _) hq
    _ = r + q := by field_simp
    _ ≤ r + 1 := by simpa using hle

/-- **There and back is the identity** on what arrives. -/
theorem down_up (hq : 0 < q) (hle : q ≤ 1) (r : ℤ) : down q (up q r) = r :=
  le_antisymm (down_up_le hq hle r) ((galoisConnection hq).le_u_l r)

/-- A fee of the fraction `a`, rounded up, that is taken from an amount. -/
theorem sub_ceil (a : k) (s : ℤ) :
    s - ⌈(s : k) * a⌉ = down (1 - a) s := by
  unfold down
  rw [mul_sub, mul_one, sub_eq_add_neg, sub_eq_add_neg, ← Int.floor_neg, Int.floor_intCast_add]

/-- A fee of the fraction `a`, rounded up, that comes on top of an amount. -/
theorem add_ceil (a : k) (r : ℤ) : r + ⌈(r : k) * a⌉ = up (1 / (1 + a)) r := by
  unfold up
  rw [div_div_eq_mul_div, div_one, mul_add, mul_one, Int.ceil_intCast_add]

end SubswapProvider.Rounding
