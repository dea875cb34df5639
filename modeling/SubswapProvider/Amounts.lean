import SubswapProvider.Limits
import SubswapProvider.Library.Rounding

/-!
# The amounts of a swap

`_get_recv_amount` and `_get_send_amount` charge a percentage, rounded up, in four places: of what is
sent or of what arrives, in each direction. Both directions convert at one rate, down on the way
there and up on the way back (`recvAmount_eq`, `sendAmount_eq`), so the two functions are inverse
where they are defined (`amounts_inverse`).
-/

namespace SubswapProvider

open Effect Rounding

namespace Pairs

variable {p : Pairs}

/-- The part of an amount that is left when the percentage has been charged. -/
def rate (p : Pairs) (is_reverse : Bool) : ℚ :=
  if is_reverse then 1 - p.percentage / 100 else 1 / (1 + p.percentage / 100)

/-- The percentage is one that a swap can be offered at. -/
structure Chargeable (p : Pairs) : Prop where
  nonneg : 0 ≤ p.percentage
  less : p.percentage < 100

variable (hp : p.Chargeable)

include hp in
theorem rate_pos (is_reverse : Bool) : 0 < p.rate is_reverse := by
  have h0 := hp.nonneg
  have h100 := hp.less
  cases is_reverse with
  | true =>
    show 0 < 1 - p.percentage / 100
    linarith
  | false =>
    show 0 < 1 / (1 + p.percentage / 100)
    positivity

include hp in
theorem rate_le_one (is_reverse : Bool) : p.rate is_reverse ≤ 1 := by
  have h0 := hp.nonneg
  cases is_reverse with
  | true =>
    show 1 - p.percentage / 100 ≤ 1
    linarith
  | false =>
    show 1 / (1 + p.percentage / 100) ≤ 1
    rw [div_le_one (by positivity)]
    linarith

/-- In the reverse direction the limits are about what is sent, and dust is not paid out. -/
theorem recvAmount_reverse {s r : Int} : p.recvAmount s true = some r ↔
    p.checkInvoiceAmount s = true ∧ dustThreshold ≤ r ∧ r + p.lockupFee = down (p.rate true) s := by
  have hnet : p.net s = down (p.rate true) s - p.lockupFee := by
    have hfee : s - ⌈p.percentage * s / 100⌉ = down (p.rate true) s := by
      rw [show p.percentage * s / 100 = s * (p.percentage / 100) by ring]
      exact sub_ceil _ _
    unfold Pairs.net
    omega
  rw [recvAmount_eq_some, hnet, ← checkInvoiceAmount_iff]
  constructor
  · rintro ⟨hcheck, hdust, rfl⟩
    exact ⟨hcheck, hdust, by omega⟩
  · rintro ⟨hcheck, hdust, heq⟩
    exact ⟨hcheck, by omega, by omega⟩

theorem sendAmount_reverse {r s : Int} : p.sendAmount r true = some s ↔
    p.checkInvoiceAmount s = true ∧ s = up (p.rate true) (r + p.lockupFee) := by
  have hup : ⌈(r + p.lockupFee : ℚ) / ((100 - p.percentage) / 100)⌉
      = up (p.rate true) (r + p.lockupFee) := by
    unfold up
    rw [Int.cast_add, show p.rate true = (100 - p.percentage) / 100 from by
      show 1 - p.percentage / 100 = _
      ring]
  unfold Pairs.sendAmount
  rw [if_pos rfl]
  dsimp only
  rw [hup]
  split
  · next hcheck =>
    rw [Option.some_inj]
    constructor
    · rintro rfl
      exact ⟨hcheck, rfl⟩
    · rintro ⟨-, rfl⟩
      rfl
  · next hcheck =>
    refine ⟨nofun, ?_⟩
    rintro ⟨hs, rfl⟩
    exact absurd hs hcheck

/-- In the other direction they are about what arrives. -/
theorem recvAmount_normal (hp : p.Chargeable) {s r : Int} : p.recvAmount s false = some r ↔
    p.checkInvoiceAmount r = true ∧ r = down (p.rate false) (s - p.normalFee) := by
  have h0 := hp.nonneg
  have hdown : s - p.normalFee - ⌈((s - p.normalFee : Int) : ℚ) * p.percentage
      / (100 + p.percentage)⌉ = down (p.rate false) (s - p.normalFee) := by
    rw [mul_div_assoc, sub_ceil, show p.rate false = 1 - p.percentage / (100 + p.percentage) from by
      show 1 / (1 + p.percentage / 100) = _
      field_simp
      ring]
  unfold Pairs.recvAmount
  rw [if_neg Bool.false_ne_true]
  dsimp only
  rw [hdown]
  split
  · next hcheck =>
    rw [Option.some_inj]
    constructor
    · rintro rfl
      exact ⟨hcheck, rfl⟩
    · rintro ⟨-, rfl⟩
      rfl
  · next hcheck =>
    refine ⟨nofun, ?_⟩
    rintro ⟨hr, rfl⟩
    exact absurd hr hcheck

theorem sendAmount_normal {r s : Int} : p.sendAmount r false = some s ↔
    p.checkInvoiceAmount r = true ∧ s = up (p.rate false) r + p.normalFee := by
  have hup : r + ⌈p.percentage * r / 100⌉ = up (p.rate false) r := by
    rw [show p.percentage * r / 100 = r * (p.percentage / 100) by ring]
    exact add_ceil _ _
  unfold Pairs.sendAmount
  rw [if_neg Bool.false_ne_true, ← hup]
  split
  · next hcheck =>
    rw [Option.some_inj]
    constructor
    · rintro rfl
      exact ⟨hcheck, by omega⟩
    · rintro ⟨-, rfl⟩
      omega
  · next hcheck =>
    exact ⟨nofun, fun h => absurd h.1 hcheck⟩

/-! ## There and back -/

/-- What is asked for an amount pays that amount. -/
theorem recvAmount_sendAmount (hp : p.Chargeable) {is_reverse : Bool} {r s : Int}
    (hdust : is_reverse = true → dustThreshold ≤ r) (h : p.sendAmount r is_reverse = some s) :
    p.recvAmount s is_reverse = some r := by
  have hback := down_up (rate_pos hp is_reverse) (rate_le_one hp is_reverse)
  cases is_reverse with
  | true =>
    obtain ⟨hcheck, rfl⟩ := sendAmount_reverse.mp h
    exact recvAmount_reverse.mpr ⟨hcheck, hdust rfl, (hback _).symm⟩
  | false =>
    obtain ⟨hcheck, rfl⟩ := sendAmount_normal.mp h
    rw [recvAmount_normal hp, add_sub_cancel_right]
    exact ⟨hcheck, (hback r).symm⟩

/-- It is the least that does. -/
theorem sendAmount_le (hp : p.Chargeable) {is_reverse : Bool} {r s s' : Int}
    (hrecv : p.recvAmount s is_reverse = some r) (hsend : p.sendAmount r is_reverse = some s') :
    s' ≤ s := by
  have hgc := galoisConnection (rate_pos hp is_reverse)
  cases is_reverse with
  | true =>
    obtain ⟨-, -, heq⟩ := recvAmount_reverse.mp hrecv
    obtain ⟨-, rfl⟩ := sendAmount_reverse.mp hsend
    exact (hgc _ _).mpr (le_of_eq heq)
  | false =>
    obtain ⟨-, heq⟩ := (recvAmount_normal hp).mp hrecv
    obtain ⟨-, rfl⟩ := sendAmount_normal.mp hsend
    have hle := (hgc r (s - p.normalFee)).mpr (le_of_eq heq)
    omega

/-- What is paid out is not dust. -/
theorem dust_le_of_recvAmount {s r : Int} (h : p.recvAmount s true = some r) : dustThreshold ≤ r :=
  (recvAmount_reverse.mp h).2.1

theorem recvAmount_mono (hp : p.Chargeable) {is_reverse : Bool} {s s' r r' : Int} (hle : s ≤ s')
    (h : p.recvAmount s is_reverse = some r) (h' : p.recvAmount s' is_reverse = some r') : r ≤ r' := by
  have hmono := (galoisConnection (rate_pos hp is_reverse)).monotone_u
  cases is_reverse with
  | true =>
    obtain ⟨-, -, heq⟩ := recvAmount_reverse.mp h
    obtain ⟨-, -, heq'⟩ := recvAmount_reverse.mp h'
    have := hmono hle
    omega
  | false =>
    obtain ⟨-, rfl⟩ := (recvAmount_normal hp).mp h
    obtain ⟨-, rfl⟩ := (recvAmount_normal hp).mp h'
    exact hmono (by omega)

theorem sendAmount_mono (hp : p.Chargeable) {is_reverse : Bool} {r r' s s' : Int} (hle : r ≤ r')
    (h : p.sendAmount r is_reverse = some s) (h' : p.sendAmount r' is_reverse = some s') : s ≤ s' := by
  have hmono := (galoisConnection (rate_pos hp is_reverse)).monotone_l
  cases is_reverse with
  | true =>
    obtain ⟨-, rfl⟩ := sendAmount_reverse.mp h
    obtain ⟨-, rfl⟩ := sendAmount_reverse.mp h'
    exact hmono (by omega)
  | false =>
    obtain ⟨-, rfl⟩ := sendAmount_normal.mp h
    obtain ⟨-, rfl⟩ := sendAmount_normal.mp h'
    have := hmono hle
    omega

end Pairs

/-! ## The functions of the swap manager -/

section

variable {w w' : World} {p : Pairs} {is_reverse : Bool} {x y : Int}

theorem getRecvAmount_eq (hpairs : w.pairs = some p) :
    getRecvAmount x is_reverse w = .ok (p.recvAmount x is_reverse) w := by
  unfold getRecvAmount
  rw [get_bind, hpairs]
  rfl

theorem getRecvAmount_ok (hpairs : w.pairs = some p) :
    getRecvAmount x is_reverse w = .ok (some y) w' ↔ p.recvAmount x is_reverse = some y ∧ w' = w := by
  rw [getRecvAmount_eq hpairs, EStateM.Result.ok.injEq, eq_comm (a := w)]

theorem getSendAmount_ok (hpairs : w.pairs = some p) :
    getSendAmount x is_reverse w = .ok (some y) w' ↔
      x ≠ 0 ∧ p.sendAmount x is_reverse = some y ∧ w' = w := by
  unfold getSendAmount
  rw [get_bind, hpairs]
  by_cases hx : x = 0
  · rw [if_pos hx]
    exact iff_of_false (fun h => nomatch h) fun h => h.1 hx
  · rw [if_neg hx]
    show EStateM.Result.ok _ _ = _ ↔ _
    rw [EStateM.Result.ok.injEq, eq_comm (a := w)]
    exact ⟨fun h => ⟨hx, h⟩, fun h => h.2⟩

end

/-- **Send and receive amounts are inverse.** Once the fees are set, at a percentage below a hundred:
what is asked for an amount pays it, it is the least that does, and both functions are monotone. -/
theorem amounts_inverse (w : World) (p : Pairs) (is_reverse : Bool) (hpairs : w.pairs = some p)
    (hp : p.Chargeable) :
    (∀ r s, getSendAmount r is_reverse w = .ok (some s) w →
      (is_reverse = true → dustThreshold ≤ r) → getRecvAmount s is_reverse w = .ok (some r) w) ∧
    (∀ s r s', getRecvAmount s is_reverse w = .ok (some r) w →
      getSendAmount r is_reverse w = .ok (some s') w →
      s' ≤ s ∧ getRecvAmount s' is_reverse w = .ok (some r) w) ∧
    (∀ s s' r r', s ≤ s' → getRecvAmount s is_reverse w = .ok (some r) w →
      getRecvAmount s' is_reverse w = .ok (some r') w → r ≤ r') ∧
    (∀ r r' s s', r ≤ r' → getSendAmount r is_reverse w = .ok (some s) w →
      getSendAmount r' is_reverse w = .ok (some s') w → s ≤ s') := by
  simp only [getRecvAmount_ok hpairs, getSendAmount_ok hpairs]
  refine ⟨?_, ?_, ?_, ?_⟩
  · rintro r s ⟨-, hsend, -⟩ hdust
    exact ⟨Pairs.recvAmount_sendAmount hp hdust hsend, trivial⟩
  · rintro s r s' ⟨hrecv, -⟩ ⟨-, hsend, -⟩
    refine ⟨Pairs.sendAmount_le hp hrecv hsend, Pairs.recvAmount_sendAmount hp ?_ hsend, trivial⟩
    rintro rfl
    exact Pairs.dust_le_of_recvAmount hrecv
  · rintro s s' r r' hle ⟨h, -⟩ ⟨h', -⟩
    exact Pairs.recvAmount_mono hp hle h h'
  · rintro r r' s s' hle ⟨-, h, -⟩ ⟨-, h', -⟩
    exact Pairs.sendAmount_mono hp hle h h'

section Sample

/-- Half a percent and some chain fees. -/
def halfPercent : Pairs where
  percentage := 1 / 2
  minAmount := 20000
  maxAmount := 10000000
  normalFee := 136
  lockupFee := 153
  claimFee := 136

/-- A client that wants 99 999 sat on chain is asked for 100 656. -/
theorem amounts_inverse_half_percent :
    getSendAmount 99999 true { World.start with pairs := some halfPercent }
        = .ok (some 100656) { World.start with pairs := some halfPercent } ∧
      getRecvAmount 100656 true { World.start with pairs := some halfPercent }
        = .ok (some 99999) { World.start with pairs := some halfPercent } := by
  have hsend : getSendAmount 99999 true { World.start with pairs := some halfPercent }
      = .ok (some 100656) { World.start with pairs := some halfPercent } :=
    (getSendAmount_ok rfl).mpr ⟨by decide, by decide +kernel, rfl⟩
  exact ⟨hsend, (amounts_inverse _ halfPercent true rfl ⟨by decide +kernel, by decide +kernel⟩).1
    99999 100656 hsend fun _ => by decide +kernel⟩

end Sample

end SubswapProvider
