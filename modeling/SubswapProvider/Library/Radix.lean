import Mathlib

/-!
# Words of a fixed width, big end first

A list of `w`-bit words stands for one number (`value`). Cutting the bits of a list into words of
another width keeps that number up to the bits that are left over, and there is only one way to do it
(`Regrouped.unique`). That is all a round trip between two widths needs.
-/

namespace SubswapProvider.Radix

/-- The number a list of digits stands for, the highest digit first. -/
def value (b : Nat) (l : List Nat) : Nat := Nat.ofDigits b l.reverse

variable {b : Nat} {l m : List Nat}

@[simp] theorem value_nil : value b [] = 0 := rfl

theorem value_append : value b (l ++ m) = value b l * b ^ m.length + value b m := by
  unfold value
  rw [List.reverse_append, Nat.ofDigits_append, List.length_reverse]
  ring

@[simp] theorem value_snoc (v : Nat) : value b (l ++ [v]) = value b l * b + v := by
  rw [value_append]
  simp [value]

theorem value_cons (v : Nat) : value b (v :: l) = v * b ^ l.length + value b l := by
  rw [← List.singleton_append, value_append]
  simp [value]

theorem value_lt (hb : 1 < b) (h : ∀ v ∈ l, v < b) : value b l < b ^ l.length := by
  rw [← List.length_reverse]
  apply Nat.ofDigits_lt_base_pow_length hb
  intro v hv
  exact h v (List.mem_reverse.mp hv)

theorem value_inj (hb : 1 < b) (hlen : l.length = m.length) (hl : ∀ v ∈ l, v < b)
    (hm : ∀ v ∈ m, v < b) (h : value b l = value b m) : l = m := by
  apply List.reverse_injective
  apply Nat.ofDigits_inj_of_len_eq hb
  · simpa using hlen
  · intro v hv
    exact hl v (List.mem_reverse.mp hv)
  · intro v hv
    exact hm v (List.mem_reverse.mp hv)
  · exact h

/-- The fold that reads digits one by one. -/
theorem foldl_eq_value (l : List Nat) : l.foldl (fun total v => b * total + v) 0 = value b l := by
  induction l using List.reverseRecOn with
  | nil => rfl
  | append_singleton l v ih =>
    rw [List.foldl_append, ih, value_snoc, Nat.mul_comm]
    rfl

/-! ## Other widths -/

/-- The bits of the `f`-bit words of `l` are those of the `t`-bit words of `m` and `bits` further bits,
which are the number `rest`. -/
structure Regrouped (f t : Nat) (l m : List Nat) (rest bits : Nat) : Prop where
  value_eq : value (2 ^ f) l = value (2 ^ t) m * 2 ^ bits + rest
  length_eq : f * l.length = t * m.length + bits
  rest_lt : rest < 2 ^ bits

namespace Regrouped

variable {f t rest bits : Nat}

theorem nil : Regrouped f t [] [] 0 0 := ⟨by simp, by simp, by simp⟩

/-- One more word is taken in. -/
theorem push {v : Nat} (h : Regrouped f t l m rest bits) (hv : v < 2 ^ f) :
    Regrouped f t (l ++ [v]) m (rest * 2 ^ f + v) (bits + f) where
  value_eq := by
    rw [value_snoc, h.value_eq, pow_add]
    ring
  length_eq := by
    have := h.length_eq
    rw [List.length_append, List.length_singleton, Nat.mul_add, this]
    omega
  rest_lt := by
    have hle : rest + 1 ≤ 2 ^ bits := h.rest_lt
    calc rest * 2 ^ f + v < rest * 2 ^ f + 2 ^ f := by omega
      _ = (rest + 1) * 2 ^ f := by ring
      _ ≤ 2 ^ bits * 2 ^ f := Nat.mul_le_mul_right _ hle
      _ = 2 ^ (bits + f) := (pow_add 2 bits f).symm

/-- One more word is given out. -/
theorem emit (h : Regrouped f t l m rest bits) (ht : t ≤ bits) :
    Regrouped f t l (m ++ [rest / 2 ^ (bits - t)]) (rest % 2 ^ (bits - t)) (bits - t) where
  value_eq := by
    have hbits : 2 ^ bits = 2 ^ t * 2 ^ (bits - t) := by rw [← pow_add]; congr 1; omega
    have hrest := Nat.div_add_mod rest (2 ^ (bits - t))
    rw [value_snoc, h.value_eq, hbits]
    nth_rewrite 1 [← hrest]
    ring
  length_eq := by
    have := h.length_eq
    rw [List.length_append, List.length_singleton, Nat.mul_add, this]
    omega
  rest_lt := Nat.mod_lt _ (Nat.two_pow_pos _)

/-- The word given out is one of `t` bits. -/
theorem emit_lt (h : Regrouped f t l m rest bits) (ht : t ≤ bits) : rest / 2 ^ (bits - t) < 2 ^ t := by
  apply Nat.div_lt_of_lt_mul
  rw [← pow_add, Nat.sub_add_cancel ht]
  exact h.rest_lt

/-- What is left fills the high end of a last word: then nothing of `l` is lost, and the words of `m`
hold the bits of `l` and zeros. -/
theorem pad (h : Regrouped f t l m rest bits) (ht : bits ≤ t) :
    Regrouped t f (m ++ [rest * 2 ^ (t - bits)]) l 0 (t - bits) where
  value_eq := by
    have hbits : 2 ^ t = 2 ^ bits * 2 ^ (t - bits) := by rw [← pow_add]; congr 1; omega
    rw [value_snoc, h.value_eq, hbits]
    ring
  length_eq := by
    have := h.length_eq
    rw [List.length_append, List.length_singleton, Nat.mul_add]
    omega
  rest_lt := Nat.two_pow_pos _

/-- Nothing is left: both lists hold the same bits. -/
theorem swap (h : Regrouped f t l m rest 0) : Regrouped t f m l 0 0 where
  value_eq := by
    have := h.value_eq
    have := h.rest_lt
    simp_all
  length_eq := h.length_eq.symm
  rest_lt := by simp

/-- **There is one way to cut the bits into words.** -/
theorem unique {m' : List Nat} {rest' bits' : Nat} (h : Regrouped f t l m rest bits)
    (h' : Regrouped f t l m' rest' bits') (hbits : bits < t) (hbits' : bits' < t)
    (hm : ∀ v ∈ m, v < 2 ^ t) (hm' : ∀ v ∈ m', v < 2 ^ t) :
    m = m' ∧ rest = rest' ∧ bits = bits' := by
  have htotal : t * m.length + bits = t * m'.length + bits' := by
    rw [← h.length_eq, ← h'.length_eq]
  have hlen : m.length = m'.length := by
    have hdiv := congrArg (· / t) htotal
    simpa [Nat.mul_add_div (by omega : 0 < t), Nat.div_eq_of_lt hbits, Nat.div_eq_of_lt hbits']
      using hdiv
  have heq : bits = bits' := by
    rw [hlen] at htotal
    omega
  subst heq
  have hvalue : value (2 ^ t) m * 2 ^ bits + rest = value (2 ^ t) m' * 2 ^ bits + rest' := by
    rw [← h.value_eq, ← h'.value_eq]
  have hhigh : value (2 ^ t) m = value (2 ^ t) m' := by
    have hdiv := congrArg (· / 2 ^ bits) hvalue
    simpa [Nat.mul_comm _ (2 ^ bits), Nat.mul_add_div (Nat.two_pow_pos bits),
      Nat.div_eq_of_lt h.rest_lt, Nat.div_eq_of_lt h'.rest_lt] using hdiv
  have hlow : rest = rest' := by
    rw [hhigh] at hvalue
    omega
  have hone : 1 < 2 ^ t := Nat.one_lt_two_pow (by omega)
  exact ⟨value_inj hone hlen hm hm' hhigh, hlow, rfl⟩

end Regrouped

end SubswapProvider.Radix
