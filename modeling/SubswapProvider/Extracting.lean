import SubswapProvider.Settling

/-!
# Finding the preimage in a claim

The transaction that claims the lockup output is written by the client, with whatever other inputs
the client likes. The loop of `_claim_swap` reads the second witness element of each input in turn,
before it knows which of them spends the lockup output, so an input without a second element in
front of it ends the call (`claimSwap_misses_preimage`). The call looks at one output only, the one
listed first, so a payment of somebody else to the lockup address may hide the claim as well.
`claimSwap_extracts_iff` says exactly when the preimage is found and
used.
-/

namespace SubswapProvider

open Deployment Effect

/-- **The preimage is used exactly when the call finds it**, and no callback of an accepted HTLC has
its result already. Where the lockup output is the one listed first, that comes down to the inputs in
front of the claim: each can be read and shows no other preimage of the hash. -/
theorem claimSwap_extracts_iff [Deployment] (env : Env) (w : World)
    (hreach : Reachable (fun _ _ => True) w) (ref : SwapRef) (current_height : Nat)
    (own : PartialTxInput) (claim_tx : Transaction) (invoice : HoldInvoice) (x : Bytes)
    (hnormal : (w.heap ref).isReverse = false) (hunknown : (w.heap ref).preimage = none)
    (hseen : ClaimSeen env (w.heap ref) current_height own claim_tx x)
    (hinvoice : w.getHoldInvoice (w.heap ref).paymentHash = some invoice)
    (hfunded : invoice.fundingStatus = .funded)
    (hcallbacks : ∀ h ∈ invoice.incomingHtlcs, h.state = .accepted →
      h.requestCallback.isSome = true) :
    (Emits (claimSwap env ref) w (.settled (w.heap ref).paymentHash x) ↔
      FindsPreimage env (w.heap ref) current_height x ∧
      ∀ h ∈ invoice.incomingHtlcs, h.state = .accepted →
        ∀ r, h.requestCallback = some r → ¬ w.Answered r) ∧
    ((∃ txos, env.addrOutputs (w.heap ref).lockupAddress = some (own :: txos)) →
      (env.confirmations own.prevout.txid).isSome = true →
      (FindsPreimage env (w.heap ref) current_height x ↔
        PassesOver (w.heap ref).paymentHash (inputsBefore x claim_tx.witnesses))) := by
  refine ⟨?_, hseen.finds_iff⟩
  rw [claimSwap_settles_iff env hreach hnormal hseen.toClaimVisible hinvoice hfunded hcallbacks]
  exact and_iff_right hunknown

section Sample

open Sample

attribute [local instance] Sample.deployment

/-- A claim with no other input settles the hold invoice. -/
theorem claimSwap_extracts_plain :
    Emits (claimSwap (spentEnv 900000 [some (claimWitnessOf afterFunding 0)]) 0) afterFunding
      (.settled paymentHash Sample.preimage) := by
  have hready : afterFunding.readyToSettle paymentHash = true := by decide +kernel
  obtain ⟨invoice, hinvoice, hfunded, hopen⟩ := World.readyToSettle_invoice hready
  have hhash : (afterFunding.heap 0).paymentHash = paymentHash := by decide +kernel
  have hiff := claimSwap_extracts_iff (spentEnv 900000 [some (claimWitnessOf afterFunding 0)])
    afterFunding (reachable_runOf _) 0 900000 (spentOutput 900000) _ invoice Sample.preimage
    (by decide +kernel) (by decide +kernel)
    (claimSeen_spentEnv _ hhash rfl (by decide +kernel) (List.mem_singleton_self _))
    (by rw [hhash]; exact hinvoice) hfunded
    (fun h hh _ => by obtain ⟨r, hr, -⟩ := hopen h hh; rw [hr]; rfl)
  have hfinds := (hiff.2 ⟨[], rfl⟩ rfl).mpr ?_
  · have hsettles := hiff.1
    rw [hhash] at hsettles
    refine hsettles.mpr ⟨hfinds, fun h hh _ r hr => ?_⟩
    obtain ⟨r', hr', hnot⟩ := hopen h hh
    rw [hr] at hr'
    cases hr'
    exact hnot
  · have hnone : inputsBefore Sample.preimage [some (claimWitnessOf afterFunding 0)] = [] := by
      decide +kernel
    intro v hv
    rw [hnone] at hv
    cases hv

/-- A first input without a witness hides the preimage: nothing is settled. -/
theorem claimSwap_misses_preimage :
    ∃ (env : Env) (w : World) (ref : SwapRef) (current_height : Nat) (own : PartialTxInput)
      (claim_tx : Transaction) (invoice : HoldInvoice) (x : Bytes),
      Reachable (fun _ _ => True) w ∧ (w.heap ref).isReverse = false ∧
      (w.heap ref).preimage = none ∧ ClaimSeen env (w.heap ref) current_height own claim_tx x ∧
      w.getHoldInvoice (w.heap ref).paymentHash = some invoice ∧
      invoice.fundingStatus = .funded ∧
      (∀ h ∈ invoice.incomingHtlcs, h.requestCallback.isSome = true) ∧
      ∀ y, ¬ Emits (claimSwap env ref) w (.settled (w.heap ref).paymentHash y) := by
  have hready : afterFunding.readyToSettle paymentHash = true := by decide +kernel
  obtain ⟨invoice, hinvoice, hfunded, hopen⟩ := World.readyToSettle_invoice hready
  have hhash : (afterFunding.heap 0).paymentHash = paymentHash := by decide +kernel
  refine ⟨spentEnv 900000 [none, some (claimWitnessOf afterFunding 0)], afterFunding, 0, 900000,
    spentOutput 900000, _, invoice, Sample.preimage, reachable_runOf _, by decide +kernel,
    by decide +kernel, claimSeen_spentEnv _ hhash rfl (by decide +kernel) ?_,
    by rw [hhash]; exact hinvoice, hfunded, fun h hh => ?_, fun y => not_emits ?_ _⟩
  · exact List.mem_cons_of_mem _ (List.mem_singleton_self _)
  · obtain ⟨r, hr, -⟩ := hopen h hh
    rw [hr]
    rfl
  · decide +kernel

end Sample

end SubswapProvider
