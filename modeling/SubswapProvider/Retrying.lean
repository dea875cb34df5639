import SubswapProvider.Settling
import SubswapProvider.Objects

/-!
# Trying again to settle

`_claim_swap` notes the preimage on the swap, then settles the hold invoice with it. Settling can
fail: after a restart an accepted HTLC has no callback until lightningd replays it. The branch that
settles is the one that looks for the preimage, and it is taken only while the swap has none. So no
later call settles what the first one failed to settle, as long as the swap object lives
(`settlement_retried_iff`, `settlement_not_retried`).
-/

namespace SubswapProvider

open Deployment Effect

/-- **A later call settles exactly when the swap has forgotten its preimage** and finds it again: so
never without a restart. -/
theorem settlement_retried_iff [Deployment] (w₁ w₂ : World) (ref₁ ref : SwapRef) (x : Bytes)
    (hreach : Reachable (fun _ _ => True) w₁) (hlearned : Knows ref₁ x w₁)
    (hrun : Run step (fun _ _ => True) w₁ w₂) (env : Env) (current_height : Nat)
    (own : PartialTxInput) (claim_tx : Transaction) (invoice : HoldInvoice)
    (hnormal : (w₂.heap ref).isReverse = false)
    (hvisible : ClaimVisible env (w₂.heap ref) current_height own claim_tx x)
    (hinvoice : w₂.getHoldInvoice (w₂.heap ref).paymentHash = some invoice)
    (hfunded : invoice.fundingStatus = .funded)
    (hcallbacks : ∀ h ∈ invoice.incomingHtlcs, h.state = .accepted →
      h.requestCallback.isSome = true) :
    (Emits (claimSwap env ref) w₂ (.settled (w₂.heap ref).paymentHash x) ↔
      (w₂.heap ref).preimage = none ∧ FindsPreimage env (w₂.heap ref) current_height x ∧
      ∀ h ∈ invoice.incomingHtlcs, h.state = .accepted →
        ∀ r, h.requestCallback = some r → ¬ w₂.Answered r) ∧
    (Run step (fun _ a => ¬ a.Restarts) w₁ w₂ → ref = ref₁ →
      ¬ Emits (claimSwap env ref) w₂ (.settled (w₂.heap ref).paymentHash x)) := by
  have hiff := claimSwap_settles_iff env (hreach.trans hrun) hnormal hvisible hinvoice hfunded
    hcallbacks
  refine ⟨hiff, ?_⟩
  rintro hlives rfl hemits
  have hknows : Knows ref x w₂ :=
    Run.invariant (I := Knows ref x) (fun _ _ ha hs => knows_step ha hs) hlives hlearned
  have hpreimage := hknows.preimage
  rw [(hiff.mp hemits).1] at hpreimage
  cases hpreimage

section Sample

open Sample

attribute [local instance] Sample.deployment

/-- The process restarts after the lockup address has been funded, before lightningd replays the
HTLCs. -/
def afterRestart : World :=
  runOf (fundedRun ++ [.reload Sample.env, .initSwapManager, .mainLoop]) World.start

/-- The client's claim is in a block. -/
def claimEnv : Env := spentEnv 900000 [some (claimWitnessOf afterRestart 0)]

/-- A first call finds the preimage, and cannot settle yet. -/
def afterFirstCall : World := step (.claim claimEnv "bcrt1qlockup") afterRestart

/-- lightningd replays the HTLC of the main invoice. -/
def replayHtlc : Action :=
  .htlc Sample.env false (some (List.replicate 32 6))
    { htlcFor 1 paymentHash 49728000 with serial := 3 }

/-- Every HTLC can be settled now. -/
def afterReplay : World := step replayHtlc afterFirstCall

theorem claimVisible_afterReplay :
    ClaimVisible claimEnv (afterReplay.heap 0) 900000 (spentOutput 900000)
      { witnesses := [some (claimWitnessOf afterRestart 0)], outputValues := [] }
      Sample.preimage := by
  have hscript : (afterReplay.heap 0).redeemScript = (afterRestart.heap 0).redeemScript := by
    decide +kernel
  exact (claimSeen_spentEnv _ (by decide +kernel) hscript (by decide +kernel)
    (List.mem_singleton_self _)).toClaimVisible

/-- A second call, with every HTLC ready, does not settle: the swap has its preimage. -/
theorem settlement_retried_after_replay :
    ¬ Emits (claimSwap claimEnv 0) afterReplay (.settled paymentHash Sample.preimage) := by
  have hready : afterReplay.readyToSettle paymentHash = true := by decide +kernel
  obtain ⟨invoice, hinvoice, hfunded, hopen⟩ := World.readyToSettle_invoice hready
  have hhash : (afterReplay.heap 0).paymentHash = paymentHash := by decide +kernel
  have hreach : Reachable (fun _ _ => True) afterRestart := reachable_runOf _
  have hlives : Run step (fun _ a => ¬ a.Restarts) afterFirstCall afterReplay :=
    Run.snoc .refl replayHtlc fun h => h
  have hretried := settlement_retried_iff afterFirstCall afterReplay 0 0 Sample.preimage
    (hreach.snoc _ trivial) ⟨by decide +kernel, by decide +kernel⟩ (Run.snoc .refl replayHtlc trivial)
    claimEnv 900000 (spentOutput 900000) _ invoice (by decide +kernel) claimVisible_afterReplay
    (by rw [hhash]; exact hinvoice) hfunded
    (fun h hh _ => by obtain ⟨r, hr, -⟩ := hopen h hh; rw [hr]; rfl)
  rw [hhash] at hretried
  exact hretried.2 hlives rfl

/-- A run in which the first call learns the preimage without settling, and the second, with every
HTLC ready and the claim in plain sight, settles with nothing. -/
theorem settlement_not_retried :
    ∃ (w₀ w : World) (first replay : Action) (env : Env) (ref : SwapRef) (current_height : Nat)
      (own : PartialTxInput) (claim_tx : Transaction) (invoice : HoldInvoice) (x : Bytes),
      Reachable (fun _ _ => True) w₀ ∧ first = .claim env (w₀.heap ref).lockupAddress ∧
      (w₀.heap ref).isReverse = false ∧ (w₀.heap ref).preimage = none ∧
      ((step first w₀).heap ref).preimage = some x ∧
      (step first w₀).trace = w₀.trace ∧ w = step replay (step first w₀) ∧
      ClaimVisible env (w.heap ref) current_height own claim_tx x ∧
      w.getHoldInvoice (w.heap ref).paymentHash = some invoice ∧
      invoice.fundingStatus = .funded ∧ (∀ h ∈ invoice.incomingHtlcs, w.Open h) ∧
      ∀ y, ¬ Emits (claimSwap env ref) w (.settled (w.heap ref).paymentHash y) := by
  have hready : afterReplay.readyToSettle paymentHash = true := by decide +kernel
  obtain ⟨invoice, hinvoice, hfunded, hopen⟩ := World.readyToSettle_invoice hready
  have hhash : (afterReplay.heap 0).paymentHash = paymentHash := by decide +kernel
  refine ⟨afterRestart, afterReplay, .claim claimEnv "bcrt1qlockup", replayHtlc, claimEnv, 0, 900000,
    spentOutput 900000, _, invoice, Sample.preimage, reachable_runOf _, ?_, by decide +kernel,
    by decide +kernel, by decide +kernel, by decide +kernel, rfl, claimVisible_afterReplay, ?_,
    hfunded, hopen, fun y => not_emits ?_ _⟩
  · have haddress : (afterRestart.heap 0).lockupAddress = "bcrt1qlockup" := by decide +kernel
    rw [haddress]
  · show afterReplay.getHoldInvoice (afterReplay.heap 0).paymentHash = some invoice
    rw [hhash]
    exact hinvoice
  · decide +kernel

end Sample

end SubswapProvider
