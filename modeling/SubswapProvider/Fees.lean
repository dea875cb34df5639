import SubswapProvider.Library.Rounding
import SubswapProvider.World

/-!
# Fees and amounts

The fee rate of `CLNChainWallet.get_chain_fee` and the amounts a swap of a given size pays out or
asks for (`_get_recv_amount`, `_get_send_amount`). The percentage is the rational a `float` stands for;
from there on `Decimal` is taken as exact.

What the rest of the development needs is one bound: with a fee setting that is not negative, a
client never receives more than it sends (`getRecvAmount_le`).
-/

namespace SubswapProvider

open Deployment

variable [Deployment]

def CLAIM_FEE_SIZE : Nat := 136

def LOCKUP_FEE_SIZE : Nat := 153

/-! ## Chain fees -/

/-- The loop of `get_chain_fee`: the rate with the greatest block count within the target. -/
def closestFeerate (target : Nat) (feerates : List (Nat × Nat)) : Nat × Option Nat :=
  feerates.foldl (fun best feerate =>
    if feerate.1 ≤ target ∧ best.1 < feerate.1 then (feerate.1, some feerate.2) else best) (0, none)

/-- `get_chain_fee`: `ceil(feerate_pervb * size_vbyte)`, in satoshis. -/
def getChainFee (env : Env) (size_vbyte : Nat) : Nat :=
  let feerates := env.feerates.getD []
  match (closestFeerate config.confirmationSpeedTargetBlocks feerates).2 with
  | some smoothed_feerate => (smoothed_feerate * size_vbyte + 999) / 1000
  | none => config.fallbackFeeSatPerVb * size_vbyte

/-- `get_fee`. -/
def getFee (env : Env) (size_vb : Nat) : Nat := getChainFee env size_vb

/-- `get_claim_fee`. -/
def getClaimFee (env : Env) : Nat := getFee env CLAIM_FEE_SIZE

/-- A `float` next to `x`; the exponents of doubles go further than those of any fee. -/
def float (x : ℚ) : ℚ := Rounding.inBinary 53 x

/-- `float(swapserver_fee_millionths) / 10000`. -/
def percentageOf (swapserver_fee_millionths : Int) : ℚ :=
  float (float swapserver_fee_millionths / 10000)

omit [Deployment] in
theorem percentageOf_nonneg {fee : Int} (hfee : 0 ≤ fee) : 0 ≤ percentageOf fee := by
  have hfee : (0 : ℚ) ≤ fee := Int.cast_nonneg hfee
  have hfloat : 0 ≤ float fee := Rounding.inBinary_nonneg 53 hfee
  exact Rounding.inBinary_nonneg 53 (div_nonneg hfloat (by norm_num))

/-- One percent is a `float`, a tenth of a percent is not. -/
example : percentageOf 10000 = 1 ∧ 1 / 10 < percentageOf 1000 := by decide +kernel

/-- `server_update_pairs`. -/
def serverUpdatePairs (env : Env) : PyM Unit :=
  modify fun w => { w with pairs := some {
    percentage := percentageOf config.swapserverFeeMillionths
    minAmount := 20000
    maxAmount := 10000000
    normalFee := getFee env CLAIM_FEE_SIZE
    lockupFee := getFee env LOCKUP_FEE_SIZE
    claimFee := getFee env CLAIM_FEE_SIZE } }

/-! ## Amounts -/

/-- `check_invoice_amount`. -/
def Pairs.checkInvoiceAmount (p : Pairs) (x : Int) : Bool := p.minAmount ≤ x ∧ x ≤ p.maxAmount

/-- `_get_recv_amount` once the fees are known. -/
def Pairs.recvAmount (p : Pairs) (send_amount : Int) (is_reverse : Bool) : Option Int :=
  if is_reverse then
    if p.checkInvoiceAmount send_amount then
      let percentage_fee := ⌈p.percentage * send_amount / 100⌉
      let x := send_amount - (percentage_fee + p.lockupFee)
      if x < dustThreshold then none else some x
    else none
  else
    let x := send_amount - p.normalFee
    let percentage_fee := ⌈x * p.percentage / (100 + p.percentage)⌉
    let x := x - percentage_fee
    if p.checkInvoiceAmount x then some x else none

/-- `_get_send_amount` once the fees are known, for an amount that is not zero. -/
def Pairs.sendAmount (p : Pairs) (recv_amount : Int) (is_reverse : Bool) : Option Int :=
  if is_reverse then
    let x := ⌈(recv_amount + p.lockupFee : ℚ) / ((100 - p.percentage) / 100)⌉
    if p.checkInvoiceAmount x then some x else none
  else
    if p.checkInvoiceAmount recv_amount then
      let percentage_fee := ⌈p.percentage * recv_amount / 100⌉
      some (recv_amount + (percentage_fee + p.normalFee))
    else none

/-- `_get_recv_amount`: `Decimal(None)` raises while the fees are not set. -/
def getRecvAmount (send_amount : Int) (is_reverse : Bool) : PyM (Option Int) := do
  let w ← get
  match w.pairs with
  | none => throw .TypeError
  | some p => pure (p.recvAmount send_amount is_reverse)

/-- `_get_send_amount`. -/
def getSendAmount (recv_amount : Int) (is_reverse : Bool) : PyM (Option Int) := do
  let w ← get
  if recv_amount = 0 then pure none
  else match w.pairs with
    | none => throw .TypeError
    | some p => pure (p.sendAmount recv_amount is_reverse)

/-- The fees a client is charged are not negative. -/
structure Pairs.NonNeg (p : Pairs) : Prop where
  percentage : 0 ≤ p.percentage
  minAmount : 0 ≤ p.minAmount
  lockupFee : 0 ≤ p.lockupFee

omit [Deployment] in
/-- **A client never receives more than it sends.** -/
theorem Pairs.recvAmount_le {p : Pairs} (hp : p.NonNeg) {send a : Int}
    (h : p.recvAmount send true = some a) : a ≤ send := by
  unfold Pairs.recvAmount at h
  rw [if_pos rfl] at h
  split at h
  · next hx =>
    have hsend : 0 ≤ send := by
      have hb : p.minAmount ≤ send ∧ send ≤ p.maxAmount := by
        simpa [Pairs.checkInvoiceAmount] using hx
      exact le_trans hp.minAmount hb.1
    have hfee : 0 ≤ ⌈p.percentage * send / 100⌉ := by
      apply Int.ceil_nonneg
      have := hp.percentage
      have : (0 : ℚ) ≤ send := by exact_mod_cast hsend
      positivity
    have hlock := hp.lockupFee
    simp only at h
    split at h
    · cases h
    · cases h; omega
  · cases h

end SubswapProvider
