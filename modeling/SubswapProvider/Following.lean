import SubswapProvider.Frame

/-!
# One call of the chain callback

What a call of `_claim_swap` does before it decides anything: it notes the output it found on the
swap, and puts the swap back into the table (`claimFunded_run`). `Emits` says what a call says to
the outside, and `settleInvoice_run` what settling a hold invoice comes to when every HTLC held on
it can be answered.
-/

namespace SubswapProvider

open Deployment Effect

/-- `x`, run from `w`, says `e` to the outside. -/
def Emits {α : Type} (x : PyM α) (w : World) (e : Event) : Prop :=
  ∃ es, (final x w).trace = es ++ w.trace ∧ e ∈ es

/-- A call that leaves the log as it was says nothing. -/
theorem not_emits {α : Type} {x : PyM α} {w : World} (h : (final x w).trace = w.trace) (e : Event) :
    ¬ Emits x w e := by
  rintro ⟨es, hes, he⟩
  rw [h] at hes
  have : es = [] := List.self_eq_append_left.mp hes
  rw [this] at he
  cases he

/-- A call that says one thing says nothing else. -/
theorem emits_of_trace {α : Type} {x : PyM α} {w : World} {es : List Event}
    (h : (final x w).trace = es ++ w.trace) (e : Event) : Emits x w e ↔ e ∈ es := by
  constructor
  · rintro ⟨es', hes', he⟩
    rw [h] at hes'
    rwa [List.append_cancel_right hes']
  · exact fun he => ⟨es, h, he⟩

/-! ## What is noted about an output -/

/-- `w'` is `w` with what has been noted about the output `txin` of the swap at `ref`. -/
structure Located (ref : SwapRef) (txin : PartialTxInput) (w w' : World) : Prop where
  holdInvoices : w'.holdInvoices = w.holdInvoices
  holdInvoiceCallbacks : w'.holdInvoiceCallbacks = w.holdInvoiceCallbacks
  lnwatcherCallbacks : w'.lnwatcherCallbacks = w.lnwatcherCallbacks
  invoicesToPay : w'.invoicesToPay = w.invoicesToPay
  preimages : w'.preimages = w.preimages
  trace : w'.trace = w.trace
  swap : ∃ spending db, w'.heap ref =
    { w.heap ref with
      fundingTxid := some txin.prevout.txid, spendingTxid := spending, db := db }
  swaps : ∀ k r, w.swaps.get? k = some r → w'.swaps.get? k = some r

theorem Located.noteFunding (ref : SwapRef) (txin : PartialTxInput) (w : World) :
    Located ref txin w
      (w.assign ref fun swap => { swap with fundingTxid := some txin.prevout.txid }) where
  holdInvoices := by simp
  holdInvoiceCallbacks := by simp
  lnwatcherCallbacks := by simp
  invoicesToPay := by simp
  preimages := by simp
  trace := by simp
  swap := ⟨(w.heap ref).spendingTxid, (w.heap ref).db, by simp⟩
  swaps k r h := by simpa using h

theorem Located.noteSpending {ref : SwapRef} {txin : PartialTxInput} {w w' : World}
    (h : Located ref txin w w') :
    Located ref txin w
      (w'.assign ref fun swap => { swap with spendingTxid := txin.spentTxid }) where
  holdInvoices := by simp [h.holdInvoices]
  holdInvoiceCallbacks := by simp [h.holdInvoiceCallbacks]
  lnwatcherCallbacks := by simp [h.lnwatcherCallbacks]
  invoicesToPay := by simp [h.invoicesToPay]
  preimages := by simp [h.preimages]
  trace := by simp [h.trace]
  swap := by
    obtain ⟨spending, db, hswap⟩ := h.swap
    exact ⟨txin.spentTxid, db, by rw [World.assign_heap_self, hswap]⟩
  swaps k r hk := by simpa using h.swaps k r hk

/-- Putting the swap back, where it is missing, adds to the table. -/
theorem Located.setSwap {ref : SwapRef} {txin : PartialTxInput} {w w' : World} {k : Hex}
    (h : Located ref txin w w') (hk : w'.swaps.contains k = false) :
    Located ref txin w (w'.setSwap k ref) where
  holdInvoices := h.holdInvoices
  holdInvoiceCallbacks := h.holdInvoiceCallbacks
  lnwatcherCallbacks := h.lnwatcherCallbacks
  invoicesToPay := h.invoicesToPay
  preimages := h.preimages
  trace := h.trace
  swap := by
    obtain ⟨spending, db, hswap⟩ := h.swap
    refine ⟨spending, true, ?_⟩
    show Function.update w'.heap ref { w'.heap ref with db := true } ref = _
    rw [Function.update_self, hswap]
  swaps k' r hk' := by
    have h' := h.swaps k' r hk'
    have hne : k' ≠ k := by
      rintro rfl
      rw [Dict.contains, h'] at hk
      cases hk
    show (w'.swaps.set k ref).get? k' = some r
    rw [Dict.get?_set_ne _ _ hne, h']

theorem Located.heap {ref : SwapRef} {txin : PartialTxInput} {w w' : World}
    (h : Located ref txin w w') :
    (w'.heap ref).isReverse = (w.heap ref).isReverse ∧
    (w'.heap ref).paymentHash = (w.heap ref).paymentHash ∧
    (w'.heap ref).preimage = (w.heap ref).preimage ∧
    (w'.heap ref).lockupAddress = (w.heap ref).lockupAddress ∧
    (w'.heap ref).locktime = (w.heap ref).locktime := by
  obtain ⟨spending, db, hswap⟩ := h.swap
  rw [hswap]
  exact ⟨rfl, rfl, rfl, rfl, rfl⟩

/-- **What comes before the decisions**: the output is noted, then either its confirmations cannot
be had or the call goes on. -/
theorem claimFunded_run [Deployment] (env : Env) (ref : SwapRef) (current_height : Nat)
    (txin : PartialTxInput) (w : World) :
    ∃ w', Located ref txin w w' ∧
      ((env.confirmations txin.prevout.txid = none ∧
          claimFunded env ref current_height txin w = .error .BitcoinCoreRPCError w') ∨
        ∃ conf, env.confirmations txin.prevout.txid = some conf ∧
          claimFunded env ref current_height txin w
            = claimLocated env ref current_height txin conf w') := by
  obtain ⟨w₁, hw₁, hrun⟩ : ∃ w₁, Located ref txin w w₁ ∧
      addOrReindexSwap ref
        (w.assign ref fun swap => { swap with fundingTxid := some txin.prevout.txid })
        = .ok () w₁ := by
    have h := Located.noteFunding ref txin w
    unfold addOrReindexSwap
    rw [get_bind]
    generalize w.assign ref (fun swap => { swap with fundingTxid := some txin.prevout.txid }) = s
      at h ⊢
    by_cases hk : s.swaps.contains (hex (s.heap ref).paymentHash) = true
    · rw [if_pos hk]
      exact ⟨s, h, rfl⟩
    · rw [if_neg hk]
      exact ⟨_, h.setSwap (by simpa using hk), rfl⟩
  unfold claimFunded
  rw [modify_bind, bind_ok hrun]
  cases hconf : env.confirmations txin.prevout.txid with
  | none => exact ⟨w₁, hw₁, .inl ⟨rfl, rfl⟩⟩
  | some conf =>
    by_cases hspent : txin.spentHeight.isSome = true
    · refine ⟨_, hw₁.noteSpending, .inr ⟨conf, rfl, ?_⟩⟩
      rw [if_pos hspent]
      rfl
    · refine ⟨w₁, hw₁, .inr ⟨conf, rfl, ?_⟩⟩
      rw [if_neg hspent]
      rfl

/-! ## Which output is followed -/

/-- At `current_height` the call goes on with the output `txin`. -/
structure Selects (env : Env) (swap : SwapData) (current_height : Nat) (txin : PartialTxInput) :
    Prop where
  upToDate : env.isUpToDate = some true
  height : env.localHeight = some current_height
  selected : ∃ txos, env.addrOutputs swap.lockupAddress = some txos ∧
    selectTxo swap txos = .ok (some txin)

section

variable [Deployment] {env : Env} {ref : SwapRef} {w : World}

/-- A call that gets the height and the outputs. -/
theorem claimSwap_run {current_height : Nat} {txos : List PartialTxInput}
    (hup : env.isUpToDate = some true) (hheight : env.localHeight = some current_height)
    (htxos : env.addrOutputs (w.heap ref).lockupAddress = some txos) :
    claimSwap env ref w = (liftExcept (selectTxo (w.heap ref) txos) >>=
      claimSelected env ref (w.heap ref).locktime current_height) w := by
  unfold claimSwap
  rw [hup, hheight, orRaise_some, pure_bind, if_pos rfl, orRaise_some, pure_bind, get_bind]
  rw [htxos, orRaise_some, pure_bind]

theorem claimSwap_selects {current_height : Nat} {txin : PartialTxInput}
    (h : Selects env (w.heap ref) current_height txin) :
    claimSwap env ref w = claimFunded env ref current_height txin w := by
  obtain ⟨txos, htxos, hselected⟩ := h.selected
  rw [claimSwap_run h.upToDate h.height htxos, hselected]
  rfl

/-- A call that also gets the confirmations of the output comes to the decisions. -/
theorem Selects.run {current_height : Nat} {txin : PartialTxInput}
    (h : Selects env (w.heap ref) current_height txin)
    (hconf : (env.confirmations txin.prevout.txid).isSome = true) :
    ∃ conf w', Located ref txin w w' ∧
      claimSwap env ref w = claimLocated env ref current_height txin conf w' := by
  obtain ⟨w', hw', ⟨hnone, -⟩ | ⟨conf, -, hrun⟩⟩ := claimFunded_run env ref current_height txin w
  · rw [hnone] at hconf
    cases hconf
  · exact ⟨conf, w', hw', (claimSwap_selects h).trans hrun⟩

omit [Deployment] in
/-- One call follows one output. -/
theorem Selects.unique {swap : SwapData} {current_height current_height' : Nat}
    {txin txin' : PartialTxInput} (h : Selects env swap current_height txin)
    (h' : Selects env swap current_height' txin') :
    current_height' = current_height ∧ txin' = txin := by
  obtain ⟨txos, htxos, hselected⟩ := h.selected
  obtain ⟨txos', htxos', hselected'⟩ := h'.selected
  rw [htxos] at htxos'
  cases htxos'
  rw [hselected] at hselected'
  have hheight := h.height.symm.trans h'.height
  exact ⟨(Option.some.inj hheight).symm, (Option.some.inj (Except.ok.inj hselected')).symm⟩

/-- A normal swap whose output was not spent deep goes on with the part for normal swaps. -/
theorem claimLocated_normal {current_height : Nat} {txin : PartialTxInput} {conf : Int}
    (hdeep : deeplySpent current_height txin = false) (hnormal : (w.heap ref).isReverse = false) :
    claimLocated env ref current_height txin conf w
      = claimNormal env ref txin ((w.heap ref).locktime - current_height) conf w := by
  unfold claimLocated
  rw [get_bind, hdeep, if_neg (by simp), hnormal, if_neg (by simp)]

/-- Without an output to follow the call does nothing, or fails the swap because none is listed. -/
theorem claimSwap_idle (h : ¬ ∃ current_height txin, Selects env (w.heap ref) current_height txin) :
    Quiet w (final (claimSwap env ref) w) ∧
    (final (claimSwap env ref) w = w ∨ ∃ txos, env.addrOutputs (w.heap ref).lockupAddress = some txos ∧
      selectTxo (w.heap ref) txos = .ok none) := by
  have hsame : final (claimSwap env ref) w = w → Quiet w (final (claimSwap env ref) w) ∧
      (final (claimSwap env ref) w = w ∨ ∃ txos, env.addrOutputs (w.heap ref).lockupAddress
        = some txos ∧ selectTxo (w.heap ref) txos = .ok none) :=
    fun hx => ⟨hx.symm ▸ Quiet.refl w, .inl hx⟩
  cases hup : env.isUpToDate with
  | none =>
    refine hsame ?_
    unfold claimSwap final
    rw [hup]
    rfl
  | some upToDate =>
    cases upToDate with
    | false =>
      refine hsame ?_
      unfold claimSwap final
      rw [hup]
      rfl
    | true =>
      cases hheight : env.localHeight with
      | none =>
        refine hsame ?_
        unfold claimSwap final
        rw [hup, hheight]
        rfl
      | some current_height =>
        cases htxos : env.addrOutputs (w.heap ref).lockupAddress with
        | none =>
          rw [htxos] at hsame
          refine hsame ?_
          unfold claimSwap final
          rw [hup, hheight, orRaise_some, pure_bind, if_pos rfl, orRaise_some, pure_bind, get_bind]
          rw [htxos]
          rfl
        | some txos =>
          have hrun := claimSwap_run hup hheight htxos
          rw [htxos] at hsame
          cases hselected : selectTxo (w.heap ref) txos with
          | error e =>
            rw [hselected] at hrun
            refine hsame ?_
            rw [final_congr hrun]
            rfl
          | ok selected =>
            cases selected with
            | some txin => exact absurd ⟨current_height, txin, hup, hheight, txos, htxos, hselected⟩ h
            | none =>
              rw [hselected] at hrun
              refine ⟨?_, .inr ⟨txos, rfl, hselected⟩⟩
              rw [final_congr hrun]
              show Quiet w (final (if _ then failSwap env ref else pure () : PyM Unit) w)
              split
              · exact (quiet_failSwap env w ref).final (Quiet.refl w)
              · exact Quiet.refl w

end

/-! ## What the end of a call sends -/

section

variable [Deployment]

/-- The transaction that spends `txin` with `item` in the place of the preimage. -/
def claimTxOf (env : Env) (swap : SwapData) (item : Bytes) (txin : PartialTxInput) :
    PartialTransaction :=
  let amount_sat := txin.valueSats - getFee env CLAIM_FEE_SIZE
  let locktime := if swap.isReverse then 0 else swap.locktime
  let sig := signTxin txin.prevout swap.receiveAddress amount_sat locktime swap.privkey
  { prevout := txin.prevout
    address := swap.receiveAddress
    value := amount_sat
    locktime := locktime
    witness := constructWitness [sig, item, swap.redeemScript] }

variable (env : Env) {txin : PartialTxInput} {item : Bytes}

/-- The attempt to build it comes to a transaction where the output pays for its claim. -/
theorem tryCreateClaimTx_run {swap : SwapData}
    (hwitness : ∀ sig, swap.claimWitness sig
      = some (constructWitness [sig, item, swap.redeemScript]))
    (hfunding : swap.fundingTxid = some txin.prevout.txid) (w : World) :
    tryCreateClaimTx env txin swap w =
      .ok (if dustThreshold ≤ txin.valueSats - getFee env CLAIM_FEE_SIZE
        then some (claimTxOf env swap item txin) else none) w := by
  dsimp only [tryCreateClaimTx, createAndSignClaimTx]
  by_cases hdust : dustThreshold ≤ txin.valueSats - getFee env CLAIM_FEE_SIZE
  · rw [if_pos hdust, if_neg (not_lt.mpr hdust), pure_bind, decide_eq_true hfunding.symm,
      pyAssert_true, pure_bind, hwitness, orRaise_some, pure_bind]
    rfl
  · rw [if_neg hdust, if_pos (not_le.mp hdust)]
    rfl

variable {ref : SwapRef} {w : World}

/-- What the end of `_claim_swap` sends: a claim of an output that is confirmed and pays for it. -/
theorem trace_broadcastClaim
    (hwitness : ∀ sig, (w.heap ref).claimWitness sig
      = some (constructWitness [sig, item, (w.heap ref).redeemScript]))
    (hfunding : (w.heap ref).fundingTxid = some txin.prevout.txid) (conf : Int) :
    (final (broadcastClaim env ref txin conf) w).trace =
      (if dustThreshold ≤ txin.valueSats - getFee env CLAIM_FEE_SIZE ∧ 0 < conf
        then [.broadcastRawTransaction (claimTxOf env (w.heap ref) item txin)] else [])
      ++ w.trace := by
  have hcreated := tryCreateClaimTx_run env hwitness hfunding w
  by_cases hdust : dustThreshold ≤ txin.valueSats - getFee env CLAIM_FEE_SIZE
  · rw [if_pos hdust] at hcreated
    unfold final broadcastClaim
    rw [get_bind, bind_ok hcreated]
    by_cases hconf : 0 < conf
    · simp only [hdust, hconf, and_self, if_true]
      rw [modify_bind]
      cases env.sendrawtransaction
      · exact congrArg (_ :: ·) (World.assign_trace ref _ w)
      · exact congrArg (_ :: ·) (World.assign_trace ref _ w)
    · simp only [hconf, and_false, if_false]
      exact World.assign_trace ref _ w
  · rw [if_neg hdust] at hcreated
    rw [if_neg fun h => hdust h.1]
    unfold final broadcastClaim
    rw [get_bind, bind_ok hcreated]
    rfl

end

end SubswapProvider
