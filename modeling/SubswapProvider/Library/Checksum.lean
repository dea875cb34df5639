import SubswapProvider.Library.Radix

/-!
# Checksums of a feedback register

The register takes in one word after another. It keeps its low bits, moved up by a word, and adds a
generator for each bit it has pushed out. All of it is linear in exclusive or (`step_xor`), so the
words that are taken in last can be chosen to bring the register to any value (`run_seal`): these are
the checksum.
-/

namespace SubswapProvider.Checksum

/-- A register over words of `width` bits. `kept` bits stay when a word is taken in. -/
structure Register where
  width : Nat
  kept : Nat
  generator : List Nat

namespace Register

/-- Add the generator of each bit of `top` that is set, the first one for bit `i`. -/
def feedback (top : Nat) : Nat → List Nat → Nat → Nat
  | _, [], chk => chk
  | i, g :: gs, chk => feedback top (i + 1) gs (chk ^^^ if top.testBit i then g else 0)

variable (r : Register)

/-- Take in one word. -/
def step (chk value : Nat) : Nat :=
  feedback (chk >>> r.kept) 0 r.generator
    (((chk &&& (2 ^ r.kept - 1)) <<< r.width) ^^^ value)

def run (chk : Nat) (values : List Nat) : Nat := values.foldl r.step chk

@[simp] theorem run_nil (chk : Nat) : r.run chk [] = chk := rfl

@[simp] theorem run_cons (chk v : Nat) (vs : List Nat) :
    r.run chk (v :: vs) = r.run (r.step chk v) vs := rfl

theorem run_append (chk : Nat) (vs ws : List Nat) :
    r.run chk (vs ++ ws) = r.run (r.run chk vs) ws := List.foldl_append

/-! ## Linearity -/

theorem xor_xor_xor (a b c d : Nat) : a ^^^ b ^^^ (c ^^^ d) = a ^^^ c ^^^ (b ^^^ d) := by
  rw [Nat.xor_assoc, Nat.xor_assoc, ← Nat.xor_assoc b c d, Nat.xor_comm b c, Nat.xor_assoc c b d]

theorem feedback_xor (s t : Nat) (gs : List Nat) (i a b : Nat) :
    feedback (s ^^^ t) i gs (a ^^^ b) = feedback s i gs a ^^^ feedback t i gs b := by
  induction gs generalizing i a b with
  | nil => rfl
  | cons g gs ih =>
    have hg : (if (s ^^^ t).testBit i then g else 0) =
        (if s.testBit i then g else 0) ^^^ (if t.testBit i then g else 0) := by
      rw [Nat.testBit_xor]
      cases s.testBit i <;> cases t.testBit i <;> simp
    unfold feedback
    rw [hg, xor_xor_xor, ih]

theorem step_xor (a b v w : Nat) : r.step (a ^^^ b) (v ^^^ w) = r.step a v ^^^ r.step b w := by
  unfold step
  rw [Nat.shiftRight_xor_distrib, Nat.and_xor_distrib_right, Nat.shiftLeft_xor_distrib, xor_xor_xor,
    feedback_xor]

/-- Words are taken in as if the register ran on without them, and they were taken in by a register
of their own. -/
theorem run_xor (a b : Nat) (vs : List Nat) :
    r.run (a ^^^ b) vs = r.run a (List.replicate vs.length 0) ^^^ r.run b vs := by
  induction vs generalizing a b with
  | nil => rfl
  | cons v vs ih =>
    have hstep : r.step (a ^^^ b) v = r.step a 0 ^^^ r.step b v := by
      rw [← step_xor, Nat.zero_xor]
    rw [run_cons, hstep, ih]
    rfl

/-! ## Few words -/

theorem feedback_zero (i : Nat) (gs : List Nat) (chk : Nat) : feedback 0 i gs chk = chk := by
  induction gs generalizing i chk with
  | nil => rfl
  | cons g gs ih =>
    unfold feedback
    rw [Nat.zero_testBit]
    simpa using ih (i + 1) chk

/-- Below a number that was moved up there is room. -/
theorem shiftLeft_xor {chk v w : Nat} (hv : v < 2 ^ w) : (chk <<< w) ^^^ v = chk * 2 ^ w + v := by
  have hdiv : ((chk <<< w) ^^^ v) / 2 ^ w = chk := by
    rw [Nat.xor_div_two_pow, Nat.shiftLeft_eq, Nat.mul_div_cancel _ (Nat.two_pow_pos w),
      Nat.div_eq_of_lt hv, Nat.xor_zero]
  have hmod : ((chk <<< w) ^^^ v) % 2 ^ w = v := by
    rw [Nat.xor_mod_two_pow, Nat.shiftLeft_eq, Nat.mul_mod_left, Nat.mod_eq_of_lt hv, Nat.zero_xor]
  rw [← Nat.div_add_mod' ((chk <<< w) ^^^ v) (2 ^ w), hdiv, hmod]

/-- As long as nothing is pushed out a word is only appended. -/
theorem step_short {chk v : Nat} (hchk : chk < 2 ^ r.kept) (hv : v < 2 ^ r.width) :
    r.step chk v = chk * 2 ^ r.width + v := by
  have htop : chk >>> r.kept = 0 := by
    rw [Nat.shiftRight_eq_div_pow]
    exact Nat.div_eq_of_lt hchk
  have hlow : chk &&& (2 ^ r.kept - 1) = chk := by
    rw [Nat.and_two_pow_sub_one_eq_mod]
    exact Nat.mod_eq_of_lt hchk
  unfold step
  rw [htop, hlow, feedback_zero, shiftLeft_xor hv]

theorem run_short {chk : Nat} {vs : List Nat} {j : Nat} (hv : ∀ v ∈ vs, v < 2 ^ r.width)
    (hchk : chk < 2 ^ (r.width * j)) (hfit : r.width * (j + vs.length) ≤ r.kept + r.width) :
    r.run chk vs = chk * 2 ^ (r.width * vs.length) + Radix.value (2 ^ r.width) vs := by
  induction vs generalizing chk j with
  | nil => simp
  | cons v vs ih =>
    have hjk : r.width * j ≤ r.kept := by
      rw [List.length_cons, ← Nat.add_assoc, Nat.mul_add, Nat.mul_add, Nat.mul_one] at hfit
      omega
    have hlt : chk < 2 ^ r.kept := lt_of_lt_of_le hchk (Nat.pow_le_pow_right (by decide) hjk)
    have hstep := r.step_short hlt (hv v List.mem_cons_self)
    have hnext : chk * 2 ^ r.width + v < 2 ^ (r.width * (j + 1)) := by
      have hle : chk + 1 ≤ 2 ^ (r.width * j) := hchk
      calc chk * 2 ^ r.width + v < (chk + 1) * 2 ^ r.width := by
            have := hv v List.mem_cons_self
            rw [Nat.add_mul]
            omega
        _ ≤ 2 ^ (r.width * j) * 2 ^ r.width := Nat.mul_le_mul_right _ hle
        _ = 2 ^ (r.width * (j + 1)) := by rw [← pow_add, Nat.mul_add, Nat.mul_one]
    rw [run_cons, hstep, ih (fun w hw => hv w (List.mem_cons_of_mem v hw)) hnext
      (by rw [List.length_cons] at hfit; rwa [Nat.add_assoc, Nat.add_comm 1])]
    rw [Radix.value_cons, List.length_cons, Nat.mul_add, pow_add, ← pow_mul]
    ring

/-! ## The checksum words -/

/-- The `k` words of a number, the highest first. -/
def words (p k : Nat) : List Nat :=
  (List.range k).map fun i => (p >>> (r.width * (k - 1 - i))) &&& (2 ^ r.width - 1)

theorem words_succ (p k : Nat) :
    r.words p (k + 1) = r.words (p >>> r.width) k ++ [p &&& (2 ^ r.width - 1)] := by
  unfold words
  rw [List.range_succ, List.map_append, List.map_singleton]
  congr 1
  · apply List.map_congr_left
    intro i hi
    have hik : i < k := List.mem_range.mp hi
    have hshift : r.width * (k + 1 - 1 - i) = r.width + r.width * (k - 1 - i) := by
      have hi1 : k + 1 - 1 - i = 1 + (k - 1 - i) := by omega
      rw [hi1, Nat.mul_add, Nat.mul_one]
    rw [hshift, Nat.shiftRight_add]
  · simp

@[simp] theorem words_length (p k : Nat) : (r.words p k).length = k := by simp [words]

theorem words_lt {p k v : Nat} (hv : v ∈ r.words p k) : v < 2 ^ r.width := by
  obtain ⟨i, -, rfl⟩ := List.mem_map.mp hv
  rw [Nat.and_two_pow_sub_one_eq_mod]
  exact Nat.mod_lt _ (Nat.two_pow_pos _)

theorem value_words (p k : Nat) : Radix.value (2 ^ r.width) (r.words p k) = p % 2 ^ (r.width * k) := by
  induction k generalizing p with
  | zero => simp [words, Nat.mod_one]
  | succ k ih =>
    rw [words_succ, Radix.value_snoc, ih, Nat.and_two_pow_sub_one_eq_mod, Nat.shiftRight_eq_div_pow,
      Nat.mul_add, Nat.mul_one, Nat.add_comm (r.width * k), pow_add, Nat.mod_mul]
    ring

/-- Generators and words below `2 ^ n` keep the register below `2 ^ n`. -/
theorem feedback_lt {n top : Nat} {gs : List Nat} (hg : ∀ g ∈ gs, g < 2 ^ n) {i chk : Nat}
    (hchk : chk < 2 ^ n) : feedback top i gs chk < 2 ^ n := by
  induction gs generalizing i chk with
  | nil => exact hchk
  | cons g gs ih =>
    unfold feedback
    apply ih
    · intro g' hg'
      exact hg g' (List.mem_cons_of_mem g hg')
    · apply Nat.xor_lt_two_pow hchk
      split
      · exact hg g List.mem_cons_self
      · exact Nat.two_pow_pos n

theorem step_lt {chk v : Nat} (hg : ∀ g ∈ r.generator, g < 2 ^ (r.kept + r.width))
    (hv : v < 2 ^ (r.kept + r.width)) : r.step chk v < 2 ^ (r.kept + r.width) := by
  apply feedback_lt hg
  apply Nat.xor_lt_two_pow _ hv
  rw [Nat.and_two_pow_sub_one_eq_mod, Nat.shiftLeft_eq, pow_add]
  exact Nat.mul_lt_mul_of_pos_right (Nat.mod_lt _ (Nat.two_pow_pos _)) (Nat.two_pow_pos _)

theorem run_lt {chk : Nat} {vs : List Nat} (hg : ∀ g ∈ r.generator, g < 2 ^ (r.kept + r.width))
    (hv : ∀ v ∈ vs, v < 2 ^ (r.kept + r.width)) (hchk : chk < 2 ^ (r.kept + r.width)) :
    r.run chk vs < 2 ^ (r.kept + r.width) := by
  induction vs generalizing chk with
  | nil => exact hchk
  | cons v vs ih =>
    apply ih
    · intro w hw
      exact hv w (List.mem_cons_of_mem v hw)
    · exact r.step_lt hg (hv v List.mem_cons_self)

/-- **The seal.** The register, run on `k` zeros and set against `target`, tells the `k` words that
bring it to `target`. -/
theorem run_seal {chk target k : Nat} (hk : r.width * k = r.kept + r.width)
    (hg : ∀ g ∈ r.generator, g < 2 ^ (r.kept + r.width)) (hchk : chk < 2 ^ (r.kept + r.width))
    (htarget : target < 2 ^ (r.kept + r.width)) :
    r.run chk (r.words (r.run chk (List.replicate k 0) ^^^ target) k) = target := by
  have hlt : r.run chk (List.replicate k 0) ^^^ target < 2 ^ (r.kept + r.width) := by
    apply Nat.xor_lt_two_pow _ htarget
    apply r.run_lt hg _ hchk
    intro v hv
    rw [List.eq_of_mem_replicate hv]
    exact Nat.two_pow_pos _
  generalize hp : r.run chk (List.replicate k 0) ^^^ target = p at hlt
  have hwords : r.run 0 (r.words p k) = p := by
    rw [r.run_short (j := 0) (fun v hv => r.words_lt hv) (by simp) (by simp [hk]), value_words, hk,
      Nat.mod_eq_of_lt hlt]
    simp
  calc r.run chk (r.words p k)
      = r.run (chk ^^^ 0) (r.words p k) := by rw [Nat.xor_zero]
    _ = r.run chk (List.replicate k 0) ^^^ p := by rw [run_xor, words_length, hwords]
    _ = target := by rw [← hp, ← Nat.xor_assoc, Nat.xor_self, Nat.zero_xor]

/-- **There is one seal.** -/
theorem seal_unique {chk target : Nat} {vs : List Nat} (hwidth : 0 < r.width) (hk : r.width * vs.length = r.kept + r.width)
    (hv : ∀ v ∈ vs, v < 2 ^ r.width) (h : r.run chk vs = target) :
    vs = r.words (r.run chk (List.replicate vs.length 0) ^^^ target) vs.length := by
  have hshort : r.run 0 vs = Radix.value (2 ^ r.width) vs := by
    rw [r.run_short (j := 0) hv (by simp) (by simp [hk])]
    simp
  have hvalue : r.run chk (List.replicate vs.length 0) ^^^ target = Radix.value (2 ^ r.width) vs := by
    have hrun := r.run_xor chk 0 vs
    rw [Nat.xor_zero, hshort, h] at hrun
    rw [hrun, ← Nat.xor_assoc, Nat.xor_self, Nat.zero_xor]
  rw [hvalue]
  apply Radix.value_inj (Nat.one_lt_two_pow hwidth.ne') (by simp) hv fun v hv => r.words_lt hv
  rw [value_words, pow_mul, Nat.mod_eq_of_lt (Radix.value_lt (Nat.one_lt_two_pow hwidth.ne') hv)]

/-! ## One wrong word -/

/-- **A register that is given another word** differs by what the difference alone would have made of it. -/
theorem run_change (chk v w : Nat) (pre post : List Nat) :
    r.run chk (pre ++ w :: post) = r.run chk (pre ++ v :: post) ^^^
      r.run 0 ((v ^^^ w) :: List.replicate post.length 0) := by
  rw [run_append, run_append, run_cons, run_cons, run_cons]
  generalize r.run chk pre = s
  have hstep : r.step s w = r.step 0 (v ^^^ w) ^^^ r.step s v := by
    rw [← step_xor, Nat.zero_xor, Nat.xor_comm v w, Nat.xor_assoc, Nat.xor_self, Nat.xor_zero]
  rw [hstep, run_xor, Nat.xor_comm]

/-- Whether `ok` holds of the register now and after each of `n` zeros. -/
def track (ok : Nat → Bool) : Nat → Nat → Bool
  | 0, chk => ok chk
  | n + 1, chk => ok chk && track ok n (r.step chk 0)

theorem ok_of_track {ok : Nat → Bool} {n m chk : Nat} (h : r.track ok n chk = true) (hm : m ≤ n) :
    ok (r.run chk (List.replicate m 0)) = true := by
  induction n generalizing m chk with
  | zero =>
    rw [Nat.le_zero.mp hm]
    exact h
  | succ n ih =>
    obtain ⟨hnow, hlater⟩ := Bool.and_eq_true_iff.mp h
    cases m with
    | zero => exact hnow
    | succ m =>
      show ok (r.run (r.step chk 0) (List.replicate m 0)) = true
      exact ih hlater (by omega)

end Register

end SubswapProvider.Checksum
