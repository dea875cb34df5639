import SubswapProvider.Frame

/-!
# Failing a normal swap

`_fail_swap` is there to let go of the client: cancel the HTLCs held on the swap's two hold
invoices and forget both invoices (`Released`). The branch that does so is entered when the swap's
payment hash is in the table of callbacks; the table is keyed by hex text and the hash looked up is
bytes, so the branch is never entered and no HTLC is ever released there
(`failSwap_releases_iff`).
-/

namespace SubswapProvider

open Effect

/-- The hold invoices stored under the payment hash and the prepay hash of a swap. -/
def World.swapInvoices (w : World) (swap : SwapData) : List HoldInvoice :=
  [some swap.paymentHash, swap.prepayHash].filterMap fun h => h.bind w.getHoldInvoice

/-- A call that led from `w` to `w'` released the client of `swap`: its hold invoices are gone, each
HTLC accepted on them has been failed, and no callback waits for the hash. -/
structure Released (w w' : World) (swap : SwapData) : Prop where
  invoices : w'.swapInvoices swap = []
  htlcs : ∀ inv ∈ w.swapInvoices swap, ∀ h ∈ inv.incomingHtlcs.elems, h.state = .accepted →
    ∃ request message, h.requestCallback = some request ∧
      Event.answer request (.fail message) ∈ w'.trace
  callback : w'.holdInvoiceCallbacks.get? (hex swap.paymentHash) = none

theorem World.swapInvoices_congr {w w' : World} (h : w'.holdInvoices = w.holdInvoices)
    (swap : SwapData) : w'.swapInvoices swap = w.swapInvoices swap := by
  unfold World.swapInvoices World.getHoldInvoice
  rw [h]

/-- **`_fail_swap` releases the client exactly when nothing holds it**: in any state, whether the
call returns or raises. -/
theorem failSwap_releases_iff (env : Env) (w : World) (ref : SwapRef) :
    Released w (final (failSwap env ref) w) (w.heap ref) ↔
      w.swapInvoices (w.heap ref) = [] ∧
      w.holdInvoiceCallbacks.get? (hex (w.heap ref).paymentHash) = none := by
  have hkept : Kept w (final (failSwap env ref) w) :=
    ((quiet_failSwap env w ref).final (Quiet.refl w)).toKept
  have hinvoices := World.swapInvoices_congr hkept.holdInvoices (w.heap ref)
  have hcallbacks := hkept.holdInvoiceCallbacks
  constructor
  · intro h
    exact ⟨hinvoices ▸ h.invoices, hcallbacks ▸ h.callback⟩
  · rintro ⟨hnone, hcallback⟩
    refine ⟨hinvoices.trans hnone, ?_, hcallbacks ▸ hcallback⟩
    intro inv hinv
    rw [hnone] at hinv
    cases hinv

section Sample

open Sample

attribute [local instance] Sample.deployment

/-- A client has a swap of 50000 sat and has sent an HTLC of 10000 sat for it. -/
private def oneHtlc : World :=
  runOf (boot ++ [.request env (createswap 50000), deliver 1 paymentHash 10000000]) World.start

/-- Failing that swap forgets it, and keeps the HTLC. -/
theorem failSwap_keeps_htlc :
    ∃ w, Reachable (fun _ _ => True) w ∧
      w.swaps.get? (hex paymentHash) = some 0 ∧ (w.heap 0).isReverse = false ∧
      (∀ inv ∈ w.swapInvoices (w.heap 0), ∀ h ∈ inv.incomingHtlcs.elems,
        h.state = .accepted → h.requestCallback.isSome = true) ∧
      returns (failSwap env 0) w = true ∧
      ¬ Released w (final (failSwap env 0) w) (w.heap 0) := by
  refine ⟨oneHtlc, reachable_runOf _, by decide +kernel, by decide +kernel, by decide +kernel,
    by decide +kernel, ?_⟩
  intro h
  have hinvoices : (final (failSwap env 0) oneHtlc).swapInvoices (oneHtlc.heap 0) ≠ [] := by
    decide +kernel
  exact hinvoices h.invoices

end Sample

end SubswapProvider
