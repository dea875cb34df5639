import SubswapProvider.Following

/-!
# Revealing the preimage of a reverse swap

For a reverse swap the plugin knows the preimage from the start, and its claim transaction makes it
public. The call of `_claim_swap` that sends it checks the amount, the confirmation and that the
output is unspent; the height is compared with the locktime only where the preimage is *unknown*.
So a claim is sent after the client's refund branch has opened, whenever the output shows up late
(`claimSwap_reveals_safely_iff`).
-/

namespace SubswapProvider

open Deployment Effect

section

variable [Deployment]

/-- Everything `_claim_swap` looks at before it claims `txin` at `current_height`. -/
structure ClaimsOutput (env : Env) (swap : SwapData) (current_height : Nat) (txin : PartialTxInput) :
    Prop extends Selects env swap current_height txin where
  unspent : txin.spentHeight = none
  confirmed : ∃ conf, env.confirmations txin.prevout.txid = some conf ∧ 0 < conf
  worth : dustThreshold ≤ txin.valueSats - getFee env CLAIM_FEE_SIZE

/-- The preimage may be shown: `tx` spends an unspent, confirmed output of the lockup address that
pays the amount agreed on, and the client cannot take a refund yet. -/
def RevealsSafely (env : Env) (swap : SwapData) (tx : PartialTransaction) : Prop :=
  ∃ txos txin current_height,
    env.addrOutputs swap.lockupAddress = some txos ∧ txin ∈ txos ∧ txin.prevout = tx.prevout ∧
    txin.spentHeight = none ∧
    (∃ conf, env.confirmations txin.prevout.txid = some conf ∧ 1 ≤ conf) ∧
    (∃ onchain_amount, swap.onchainAmount = some onchain_amount ∧
      onchain_amount ≤ txin.valueSats) ∧
    env.localHeight = some current_height ∧ current_height < swap.locktime

variable (env : Env)

omit [Deployment] in
/-- What is selected for a reverse swap is an output of at least the amount agreed on. -/
theorem selectTxo_ok {swap : SwapData} (hreverse : swap.isReverse = true)
    {txos : List PartialTxInput} {txin : PartialTxInput}
    (h : selectTxo swap txos = .ok (some txin)) :
    txin ∈ txos ∧ ∃ onchain_amount, swap.onchainAmount = some onchain_amount ∧
      onchain_amount ≤ txin.valueSats := by
  induction txos with
  | nil => cases h
  | cons t txos ih =>
    unfold selectTxo at h
    rw [if_pos hreverse] at h
    split at h
    · cases h
    · next onchain_amount hamount =>
      split at h
      · obtain ⟨hmem, hle⟩ := ih h
        exact ⟨List.mem_cons_of_mem t hmem, hle⟩
      · next hlt =>
        cases h
        exact ⟨List.mem_cons_self, onchain_amount, hamount, not_lt.mp hlt⟩

omit [Deployment] in
theorem claimWitness_reverse {swap : SwapData} {preimage : Bytes} (hreverse : swap.isReverse = true)
    (hpreimage : swap.preimage = some preimage) (sig : Bytes) :
    swap.claimWitness sig = some (constructWitness [sig, preimage, swap.redeemScript]) := by
  unfold SwapData.claimWitness
  rw [if_pos hreverse, hpreimage]
  rfl

/-- What `_claim_swap` sends once it has located the output. -/
theorem trace_claimLocated {ref : SwapRef} {preimage : Bytes} {txin : PartialTxInput} {w : World}
    (hreverse : (w.heap ref).isReverse = true) (hpreimage : (w.heap ref).preimage = some preimage)
    (hfunding : (w.heap ref).fundingTxid = some txin.prevout.txid) (current_height : Nat)
    (conf : Int) :
    (final (claimLocated env ref current_height txin conf) w).trace =
      (if txin.spentHeight = none ∧
          dustThreshold ≤ txin.valueSats - getFee env CLAIM_FEE_SIZE ∧ 0 < conf
        then [.broadcastRawTransaction (claimTxOf env (w.heap ref) preimage txin)] else [])
      ++ w.trace := by
  by_cases hdeep : deeplySpent current_height txin = true
  · have hspent : txin.spentHeight ≠ none := by
      intro h
      rw [deeplySpent, h] at hdeep
      cases hdeep
    rw [if_neg fun h => hspent h.1]
    have hkeeps : Keeps (fun s => s.trace = w.trace) (do
        modify (World.assign ref fun swap => { swap with isRedeemed := true })
        deleteFinishedReverseSwap env ref) :=
      Keeps.bind (Keeps.modify fun s hs => (World.assign_trace _ _ s).trans hs) fun _ =>
        Keeps.of_rel (fun s => quiet_deleteFinishedReverseSwap env s ref) Quiet.refl
          fun s t hst hs => hst.trace.trans hs
    have hrun : claimLocated env ref current_height txin conf w = (do
        modify (World.assign ref fun swap => { swap with isRedeemed := true })
        deleteFinishedReverseSwap env ref : PyM Unit) w := by
      unfold claimLocated
      rw [get_bind, if_pos hdeep]
    have htrace := hkeeps.final (s := w) rfl
    unfold final at htrace ⊢
    rw [hrun]
    exact htrace
  · have hrun : claimLocated env ref current_height txin conf w =
        (if txin.spentHeight.isSome = true then pure ()
          else broadcastClaim env ref txin conf : PyM Unit) w := by
      unfold claimLocated
      rw [get_bind, if_neg hdeep, if_pos hreverse]
      unfold claimReverse
      rw [get_bind, hpreimage]
      rw [pure_bind, get_bind, hpreimage, if_neg (by simp)]
    cases hspent : txin.spentHeight with
    | some spent_height =>
      rw [if_neg (by simp)]
      unfold final
      rw [hrun, hspent, if_pos (by simp)]
      rfl
    | none =>
      have hsend := trace_broadcastClaim env (claimWitness_reverse hreverse hpreimage) hfunding conf
      unfold final at hsend ⊢
      rw [hrun, hspent, if_neg (by simp), hsend]
      simp only [true_and]

/-- **What a reverse swap sends**: the claim of the output it goes on with, whatever the height. -/
theorem claimSwap_broadcasts_iff {ref : SwapRef} {preimage : Bytes} {w : World}
    (hreverse : (w.heap ref).isReverse = true) (hpreimage : (w.heap ref).preimage = some preimage)
    (tx : PartialTransaction) :
    Emits (claimSwap env ref) w (.broadcastRawTransaction tx) ↔
      ∃ current_height txin, ClaimsOutput env (w.heap ref) current_height txin ∧
        tx = claimTxOf env (w.heap ref) preimage txin := by
  by_cases hselects : ∃ current_height txin, Selects env (w.heap ref) current_height txin
  · obtain ⟨current_height, txin, hselects⟩ := hselects
    -- the height and the output are determined by the surroundings
    have huniq : ∀ h t, Selects env (w.heap ref) h t → t = txin := by
      intro h t ht
      obtain ⟨txos, htxos, ht⟩ := ht.selected
      obtain ⟨txos', htxos', ht'⟩ := hselects.selected
      rw [htxos] at htxos'
      cases htxos'
      rw [ht] at ht'
      cases ht'
      rfl
    obtain ⟨w', hw', hrun⟩ := claimFunded_run env ref current_height txin w
    rw [← claimSwap_selects hselects] at hrun
    obtain ⟨spending, db, hswap⟩ := hw'.swap
    rcases hrun with ⟨hnone, hrun⟩ | ⟨conf, hconf, hrun⟩
    · have hnot : ¬ Emits (claimSwap env ref) w (.broadcastRawTransaction tx) := by
        apply not_emits
        unfold final
        rw [hrun]
        exact hw'.trace
      refine iff_of_false hnot ?_
      rintro ⟨h, t, hclaims, -⟩
      obtain ⟨conf, hconf, -⟩ := hclaims.confirmed
      rw [huniq h t hclaims.toSelects, hnone] at hconf
      cases hconf
    · have htrace := trace_claimLocated env (w := w') (by rw [hswap]; exact hreverse)
        (by rw [hswap]; exact hpreimage) (by rw [hswap]) current_height conf
      have htx : claimTxOf env (w'.heap ref) preimage txin
          = claimTxOf env (w.heap ref) preimage txin := by rw [hswap]; rfl
      rw [htx, hw'.trace] at htrace
      have hfinal : final (claimSwap env ref) w
          = final (claimLocated env ref current_height txin conf) w' := by
        unfold final
        rw [hrun]
      rw [← hfinal] at htrace
      rw [emits_of_trace htrace]
      constructor
      · intro hmem
        split at hmem
        · next hc =>
          have htx := List.mem_singleton.mp hmem
          exact ⟨current_height, txin, ⟨hselects, hc.1, ⟨conf, hconf, hc.2.2⟩, hc.2.1⟩,
            Event.broadcastRawTransaction.inj htx⟩
        · cases hmem
      · rintro ⟨h, t, hclaims, rfl⟩
        obtain rfl := huniq h t hclaims.toSelects
        obtain ⟨conf', hconf', hpos⟩ := hclaims.confirmed
        rw [hconf] at hconf'
        cases hconf'
        rw [if_pos ⟨hclaims.unspent, hclaims.worth, hpos⟩]
        exact List.mem_singleton_self _
  · refine iff_of_false (not_emits (claimSwap_idle hselects).1.trace _) ?_
    rintro ⟨h, t, hclaims, -⟩
    exact hselects ⟨h, t, hclaims.toSelects⟩

/-- **The preimage is shown safely exactly when no output is there to claim at or after the
locktime.** -/
theorem claimSwap_reveals_safely_iff (ref : SwapRef) (preimage : Bytes) (w : World)
    (hreverse : (w.heap ref).isReverse = true)
    (hpreimage : (w.heap ref).preimage = some preimage) :
    (∀ tx, Emits (claimSwap env ref) w (.broadcastRawTransaction tx) →
        RevealsSafely env (w.heap ref) tx) ↔
      ¬ ∃ current_height txin, ClaimsOutput env (w.heap ref) current_height txin ∧
        (w.heap ref).locktime ≤ current_height := by
  constructor
  · rintro hsafe ⟨current_height, txin, hclaims, hlate⟩
    obtain ⟨-, -, h, -, -, -, -, -, -, hheight, hlt⟩ :=
      hsafe _ ((claimSwap_broadcasts_iff env hreverse hpreimage _).mpr ⟨_, _, hclaims, rfl⟩)
    rw [hclaims.height] at hheight
    cases hheight
    omega
  · intro hnone tx hemits
    obtain ⟨current_height, txin, hclaims, rfl⟩ :=
      (claimSwap_broadcasts_iff env hreverse hpreimage tx).mp hemits
    obtain ⟨txos, htxos, hselected⟩ := hclaims.selected
    obtain ⟨hmem, hamount⟩ := selectTxo_ok hreverse hselected
    refine ⟨txos, txin, current_height, htxos, hmem, rfl, hclaims.unspent, hclaims.confirmed,
      hamount, hclaims.height, ?_⟩
    by_contra hlate
    exact hnone ⟨current_height, txin, hclaims, not_lt.mp hlate⟩

end

section Sample

open Sample

attribute [local instance] Sample.deployment

/-- A process with one reverse swap, whose locktime is 900070. -/
def withReverseSwap : World :=
  runOf (boot ++ [.request Sample.env (.createnormalswap 50000 (3 :: List.replicate 32 4))])
    World.start

/-- Before the locktime the claim is safe. -/
theorem claimSwap_reveals_safely_early :
    (withReverseSwap.heap 0).locktime = 900070 ∧
    ∀ tx, Emits (claimSwap { Sample.env with addrOutputs := fun _ => some [lockupOutput] } 0)
        withReverseSwap (.broadcastRawTransaction tx) →
      RevealsSafely { Sample.env with addrOutputs := fun _ => some [lockupOutput] }
        (withReverseSwap.heap 0) tx := by
  have hlocktime : (withReverseSwap.heap 0).locktime = 900070 := by decide +kernel
  refine ⟨hlocktime, (claimSwap_reveals_safely_iff _ 0 prepayPreimage withReverseSwap
    (by decide +kernel) (by decide +kernel)).mpr ?_⟩
  rintro ⟨current_height, txin, hclaims, hlate⟩
  have hheight : current_height = 900000 := (Option.some.inj hclaims.height).symm
  omega

/-- An output that turns up at the locktime is claimed all the same. -/
theorem claimSwap_reveals_late :
    ∃ w ref env tx, Reachable (fun _ _ => True) w ∧ w.swaps.get? (hex prepayHash) = some ref ∧
      (w.heap ref).isReverse = true ∧ (w.heap ref).preimage = some prepayPreimage ∧
      Emits (claimSwap env ref) w (.broadcastRawTransaction tx) ∧
      ¬ RevealsSafely env (w.heap ref) tx := by
  let env : Env := { Sample.env with
    localHeight := some 900070, addrOutputs := fun _ => some [lockupOutput] }
  refine ⟨withReverseSwap, 0, env, claimTxOf env (withReverseSwap.heap 0) prepayPreimage
    lockupOutput, reachable_runOf _, by decide +kernel, by decide +kernel, by decide +kernel,
    ⟨[_], ?_, List.mem_singleton_self _⟩, ?_⟩
  · decide +kernel
  · rintro ⟨-, -, h, -, -, -, -, -, -, hheight, hlt⟩
    have hlocktime : (withReverseSwap.heap 0).locktime = 900070 := by decide +kernel
    have hh : h = 900070 := (Option.some.inj hheight).symm
    omega

end Sample

end SubswapProvider
