import SubswapProvider.Frame
import SubswapProvider.System

/-!
# What a swap object keeps

A `SwapData` object lives as long as the process. Its preimage is assigned only where it is `None`,
so an object that knows its preimage (`Knows`) knows it until the process ends (`knows_step`).
-/

namespace SubswapProvider

open Deployment Effect

/-- The objects are the same. -/
structure HeapSame (w w' : World) : Prop where
  heap : w'.heap = w.heap
  nextRef : w'.nextRef = w.nextRef

theorem HeapSame.refl (w : World) : HeapSame w w := ⟨rfl, rfl⟩

theorem heap_quiet {α : Type} {p : PyM α} (h : ∀ w₀, Keeps (Quiet w₀) p) (w₀ : World) :
    Keeps (HeapSame w₀) p :=
  Keeps.of_rel h Quiet.refl fun _ _ hst hs =>
    ⟨hst.toSwapsKept.heap.trans hs.heap, hst.toSwapsKept.nextRef.trans hs.nextRef⟩

theorem heap_same {α : Type} {p : PyM α} (h : ∀ w₀, Keeps (SwapsSame w₀) p) (w₀ : World) :
    Keeps (HeapSame w₀) p :=
  Keeps.of_rel h SwapsSame.refl fun _ _ hst hs =>
    ⟨hst.heap.trans hs.heap, hst.nextRef.trans hs.nextRef⟩

/-- The object at `ref` exists and has the preimage `x`. -/
structure Knows (ref : SwapRef) (x : Bytes) (w : World) : Prop where
  allocated : ref < w.nextRef
  preimage : (w.heap ref).preimage = some x

section

variable {ref : SwapRef} {x : Bytes}

theorem Knows.congr {w w' : World} (h : Knows ref x w) (hheap : w'.heap = w.heap)
    (hnext : w'.nextRef = w.nextRef) : Knows ref x w' :=
  ⟨hnext ▸ h.allocated, by rw [hheap]; exact h.preimage⟩

theorem knows_heap {α : Type} {p : PyM α} (h : ∀ w₀, Keeps (HeapSame w₀) p) :
    Keeps (Knows ref x) p :=
  Keeps.of_rel h HeapSame.refl fun _ _ hst hs => hs.congr hst.heap hst.nextRef

theorem knows_quiet {α : Type} {p : PyM α} (h : ∀ w₀, Keeps (Quiet w₀) p) : Keeps (Knows ref x) p :=
  knows_heap (heap_quiet h)

theorem knows_same {α : Type} {p : PyM α} (h : ∀ w₀, Keeps (SwapsSame w₀) p) :
    Keeps (Knows ref x) p :=
  knows_heap (heap_same h)

theorem Knows.update {w w' : World} (h : Knows ref x w) {r : SwapRef} {swap : SwapData}
    (hheap : w'.heap = Function.update w.heap r swap) (hnext : w.nextRef ≤ w'.nextRef)
    (hswap : r = ref → swap.preimage = some x) : Knows ref x w' := by
  refine ⟨lt_of_lt_of_le h.allocated hnext, ?_⟩
  rw [hheap]
  by_cases hr : r = ref
  · rw [hr, Function.update_self]
    exact hswap hr
  · rw [Function.update_of_ne (Ne.symm hr)]
    exact h.preimage

/-- An assignment to another attribute, or to another object. -/
theorem knows_assign {r : SwapRef} {f : SwapData → SwapData}
    (hf : r = ref → ∀ swap, (f swap).preimage = swap.preimage) :
    Keeps (Knows ref x) (modify (World.assign r f) : PyM PUnit) :=
  Keeps.modify fun w hw => hw.update (World.assign_heap r f w) (World.assign_nextRef r f w).ge
    fun hr => (hf hr _).trans (hr ▸ hw.preimage)

theorem knows_addOrReindexSwap (r : SwapRef) : Keeps (Knows ref x) (addOrReindexSwap r) :=
  Keeps.get fun _ => Keeps.ite Keeps.pure <| Keeps.modify fun w hw =>
    hw.update (r := r) rfl le_rfl fun hr => by rw [hr]; exact hw.preimage

/-- A new object is at a place of its own. -/
theorem knows_allocSwap (swap : SwapData) :
    Keeps (Knows ref x) (modify (World.allocSwap swap) : PyM PUnit) :=
  Keeps.modify fun w hw => hw.update (r := w.nextRef) rfl (Nat.le_succ _) fun hr =>
    absurd hr (Nat.ne_of_gt hw.allocated)

/-! ## The functions -/

variable [Deployment] (env : Env)

omit [Deployment] in
theorem knows_callOf (c : HoldInvoiceCallback) (payment_hash : Bytes) :
    Keeps (Knows ref x) (callOf env c payment_hash) := by
  cases c
  unfold callOf holdInvoiceCallback
  refine Keeps.get fun w => ?_
  split
  · exact Keeps.pure
  · refine Keeps.ite (Keeps.bind ?_ fun tx => Keeps.tryCatch ?_ fun _ =>
      knows_quiet fun w₀ => quiet_failSwap env w₀ _) Keeps.pure
    · unfold createFundingTx
      exact Keeps.get fun w => Keeps.bind (knows_same fun w₀ => same_emit w₀ _) fun _ =>
        Keeps.bind (keeps_orRaise _ _) fun _ => keeps_createTransaction _ _
    · exact Keeps.bind (knows_assign fun _ _ => rfl) fun _ => Keeps.get fun _ =>
        Keeps.bind (knows_same fun w₀ => same_emit w₀ _) fun _ => Keeps.ite Keeps.pure Keeps.throw

omit [Deployment] in
theorem knows_invokeCallback (c : HoldInvoiceCallback) (invoice : HoldInvoice) :
    Keeps (Knows ref x) (invokeCallback (callOf env c) invoice) :=
  Keeps.get fun _ => Keeps.bind (knows_same fun w₀ => same_emit w₀ _) fun _ =>
    Keeps.bind (knows_callOf env c _) fun _ => knows_same fun w₀ => same_unregister w₀ _

theorem knows_callbackHandler : Keeps (Knows ref x) (callbackHandler env (callOf env)) := by
  refine Keeps.get fun _ => Keeps.tryCatch (Keeps.forM fun item _ => ?_) fun _ => Keeps.pure
  unfold handleCallback
  refine Keeps.get fun w => ?_
  split
  · exact Keeps.ite (knows_same fun w₀ => same_unregister w₀ _) Keeps.throw
  · refine Keeps.ite ?_ Keeps.pure
    split
    · exact knows_invokeCallback env _ _
    · split
      · exact Keeps.throw
      · exact Keeps.ite (Keeps.bind (keeps_getPreimage _) fun _ =>
          Keeps.bind (knows_same fun w₀ => same_settleInvoice w₀ _ _) fun _ =>
          Keeps.bind (knows_same fun w₀ => same_updateInvoice env w₀ _) fun _ =>
          knows_invokeCallback env _ _) Keeps.pure

theorem knows_handleRequest (request : ClientRequest) :
    Keeps (Knows ref x) (handleRequest env request) := by
  cases request with
  | createswap type pairId invoiceAmount preimageHash claimPublicKey =>
    unfold handleRequest serverCreateSwap
    refine Keeps.bind (keeps_pyAssert _) fun _ => Keeps.ite
      (Keeps.bind (keeps_pyAssert _) fun _ => Keeps.bind (keeps_pyAssert _) fun _ =>
        Keeps.ite Keeps.pure (Keeps.bind (keeps_orRaise _ _) fun _ => Keeps.ite Keeps.pure
          (Keeps.bind ?_ fun _ => Keeps.pure))) Keeps.pure
    unfold createNormalSwap
    refine Keeps.bind (keeps_pyAssert _) fun _ => Keeps.bind (keeps_orRaise _ _) fun height =>
      Keeps.bind ?_ fun onchain => Keeps.bind ?_ fun created =>
      Keeps.bind (Keeps.modify fun _ h => h.congr rfl rfl) fun _ => Keeps.pure
    · unfold getRecvAmount
      refine Keeps.get fun w => ?_
      split
      · exact Keeps.throw
      · exact Keeps.pure
    · unfold addNormalSwap
      exact Keeps.bind (knows_same fun w₀ => same_b11invoiceFromHash env w₀ _ _ _ _) fun _ =>
        Keeps.bind (knows_same fun w₀ => same_createPaymentInfo env w₀) fun _ =>
        Keeps.bind (knows_same fun w₀ => same_b11invoiceFromHash env w₀ _ _ _ _) fun _ =>
        Keeps.bind (knows_same fun w₀ => same_bundlePayments env w₀ _ _) fun _ =>
        Keeps.bind (keeps_orRaise _ _) fun _ => Keeps.get fun _ =>
        Keeps.bind (knows_allocSwap _) fun _ => Keeps.bind (knows_addOrReindexSwap _) fun _ =>
        Keeps.bind (Keeps.ite Keeps.pure Keeps.throw) fun _ =>
        Keeps.bind (knows_quiet fun w₀ => quiet_addLnwatcherCallback w₀ _) fun _ => Keeps.pure
  | createnormalswap invoiceAmount refundPublicKey =>
    unfold handleRequest serverCreateNormalSwap
    refine Keeps.bind (keeps_pyAssert _) fun _ => Keeps.ite Keeps.pure
      (Keeps.bind ?_ fun _ => Keeps.pure)
    unfold createReverseSwap
    refine Keeps.bind (keeps_orRaise _ _) fun height => Keeps.bind ?_ fun onchain => ?_
    · unfold getSendAmount
      refine Keeps.get fun w => Keeps.ite Keeps.pure ?_
      split
      · exact Keeps.throw
      · exact Keeps.pure
    · unfold addReverseSwap
      exact Keeps.bind (keeps_orRaise _ _) fun _ =>
        Keeps.bind (Keeps.ite Keeps.pure Keeps.throw) fun _ => Keeps.get fun _ =>
        Keeps.bind (knows_allocSwap _) fun _ => Keeps.bind (knows_addOrReindexSwap _) fun _ =>
        Keeps.bind (knows_quiet fun w₀ => quiet_addLnwatcherCallback w₀ _) fun _ => Keeps.pure
  | addswapinvoice invoice => exact knows_quiet fun w₀ => quiet_serverAddSwapInvoice env w₀ invoice
  | unknown method => exact Keeps.pure

/-! ## The chain callback -/

theorem heap_finishNormalSwap (w₀ : World) (r : SwapRef) :
    Keeps (HeapSame w₀) (finishNormalSwap env r) := by
  unfold finishNormalSwap
  refine Keeps.get fun w => Keeps.bind (keeps_pyAssert _) fun _ => ?_
  split
  · exact Keeps.throw
  · refine Keeps.bind (heap_same (fun w₀ => same_settleInvoice w₀ _ _) w₀) fun _ =>
      Keeps.bind (heap_same (fun w₀ => same_deleteHoldInvoice env w₀ _ _) w₀) fun _ =>
      Keeps.bind ?_ fun _ =>
      Keeps.bind (heap_same (fun w₀ => same_deletePaymentInfo env w₀ _ _) w₀) fun _ =>
      Keeps.bind (heap_quiet (fun w₀ => quiet_removeCallback w₀ _) w₀) fun _ =>
      Keeps.bind (heap_quiet (fun w₀ => quiet_popSwapOrRaise w₀ _) w₀) fun _ =>
      heap_same (fun w₀ => same_dbWrite env w₀) w₀
    split
    · exact heap_same (fun w₀ => same_deleteHoldInvoice env w₀ _ _) w₀
    · exact Keeps.pure

/-- The preimage is assigned only where there is none, so to another object. -/
theorem knows_claimNormal (r : SwapRef) (txin : PartialTxInput) (remaining_time conf : Int) :
    Keeps (Knows ref x) (claimNormal env r txin remaining_time conf) := by
  unfold claimNormal
  refine Keeps.getBind fun w hw => Triple.bind (R := fun _ => Knows ref x) ?_ fun outcome => ?_
  · split
    · next hnone _ =>
      have hne : r ≠ ref := by
        rintro rfl
        rw [hw.preimage] at hnone
        cases hnone
      refine Triple.pre (R := Knows ref x) ?_ fun s hs => hs ▸ hw
      unfold inspectSpend
      refine Keeps.get fun _ => Keeps.bind (keeps_orRaise _ _) fun _ =>
        Keeps.bind (keeps_orRaise _ _) fun _ => Keeps.bind (keeps_orRaise _ _) fun _ =>
        Keeps.bind (keeps_liftExcept _) fun extracted => ?_
      cases extracted with
      | some preimage =>
        exact Keeps.bind (knows_assign fun hr => absurd hr hne) fun _ =>
          Keeps.bind (knows_heap fun w₀ => heap_finishNormalSwap env w₀ r) fun _ => Keeps.pure
      | none =>
        exact Keeps.ite (Keeps.bind (knows_assign fun _ _ => rfl) fun _ =>
          Keeps.bind (knows_quiet fun w₀ => quiet_failSwap env w₀ r) fun _ => Keeps.pure)
          (Keeps.ite (Keeps.bind (keeps_orRaise _ _) fun _ => Keeps.pure) Keeps.pure)
    · exact Triple.pure fun s hs => hs ▸ hw
  · exact keeps_takeRefund env txin (fun _ => knows_assign fun _ _ => rfl)
      (fun _ => knows_same fun w₀ => same_emit w₀ _) _ _ _

theorem knows_claimReverse (r : SwapRef) (txin : PartialTxInput) (remaining_time conf : Int) :
    Keeps (Knows ref x) (claimReverse env r txin remaining_time conf) := by
  unfold claimReverse
  refine Keeps.getBind fun w hw => Triple.bind (R := fun _ => Knows ref x) ?_ fun _ => ?_
  · split
    · exact Triple.pure fun s hs => hs ▸ hw
    · next hnone =>
      have hne : r ≠ ref := by
        rintro rfl
        rw [hw.preimage] at hnone
        cases hnone
      refine Triple.pre (R := Knows ref x) ?_ fun s hs => hs ▸ hw
      exact Keeps.bind (keeps_getPreimage _) fun _ => knows_assign fun hr => absurd hr hne
  · refine Keeps.get fun _ => Keeps.ite ?_ (Keeps.ite Keeps.pure
      (keeps_broadcastClaim env txin (fun _ => knows_assign fun _ _ => rfl)
        (fun _ => knows_same fun w₀ => same_emit w₀ _) conf))
    unfold queuePayment
    refine Keeps.get fun w => Keeps.ite Keeps.pure ?_
    split
    · exact Keeps.throw
    · exact Keeps.ite (Keeps.modify fun _ h => h.congr rfl rfl)
        (Keeps.ite Keeps.pure (Keeps.modify fun _ h => h.congr rfl rfl))

theorem knows_claimSwap (r : SwapRef) : Keeps (Knows ref x) (claimSwap env r) := by
  unfold claimSwap
  refine Keeps.bind (keeps_orRaise _ _) fun upToDate => Keeps.ite ?_ Keeps.pure
  refine Keeps.bind (keeps_orRaise _ _) fun current_height => Keeps.get fun w =>
    Keeps.bind (keeps_orRaise _ _) fun txos => Keeps.bind (keeps_liftExcept _) fun selected => ?_
  cases selected with
  | none => exact Keeps.ite (knows_quiet fun w₀ => quiet_failSwap env w₀ r) Keeps.pure
  | some txin =>
    unfold claimSelected claimFunded
    refine Keeps.bind (knows_assign fun _ _ => rfl) fun _ =>
      Keeps.bind (knows_addOrReindexSwap r) fun _ => Keeps.bind (keeps_orRaise _ _) fun _ =>
      Keeps.bind (Keeps.ite (knows_assign fun _ _ => rfl) Keeps.pure) fun _ => ?_
    unfold claimLocated
    exact Keeps.get fun _ => Keeps.ite
      (Keeps.bind (knows_assign fun _ _ => rfl) fun _ =>
        knows_quiet fun w₀ => quiet_deleteFinishedReverseSwap env w₀ r)
      (Keeps.ite (knows_claimReverse env r _ _ _) (knows_claimNormal env r _ _ _))

/-! ## Steps -/

/-- **A preimage once known stays known** while the process lives. -/
theorem knows_step {w : World} {a : Action} (ha : ¬ a.Restarts) (h : Knows ref x w) :
    Knows ref x (step a w) := by
  cases a with
  | request env r => exact (keeps_atStage (knows_handleRequest env r)).final h
  | htlc env forward payment_secret r =>
    exact (knows_same fun w₀ => same_pluginHtlcAcceptedHook env w₀ _ _ _).final h
  | expiry env => exact (knows_same fun w₀ => same_monitorExpiries env w₀).final h
  | callbacks env => exact (knows_callbackHandler env).final h
  | claim env address =>
    have hkeeps : Keeps (Knows ref x) (claimAddress env address) := by
      unfold claimAddress
      refine Keeps.get fun w => ?_
      split
      · exact knows_claimSwap env _
      · exact Keeps.pure
    exact hkeeps.final h
  | updatePairs env => exact h.congr rfl rfl
  | rehash k order => exact h.congr rfl rfl
  | payPending env =>
    exact (knows_quiet fun w₀ => quiet_payPendingLnInvoices env w₀).final h
  | payTask env n result =>
    exact (keeps_payTaskStep env
      (fun _ _ hq hs => hs.congr hq.toSwapsKept.heap hq.toSwapsKept.nextRef)
      (fun _ _ _ => knows_same fun w₀ => same_emit w₀ _) n result).final h
  | reload env => exact absurd trivial ha
  | crash env n => exact absurd trivial ha
  | initSwapManager =>
    have hkeeps : Keeps (Knows ref x) initSwapManager := by
      unfold initSwapManager
      refine Keeps.get fun w => Keeps.forM fun item _ => Keeps.get fun w => Keeps.ite ?_ Keeps.pure
      refine Keeps.ite (Keeps.modify fun _ h => h.congr rfl rfl) (Keeps.modify fun w hw => ?_)
      exact hw.congr (Quiet.popSwap _ w).toSwapsKept.heap (Quiet.popSwap _ w).toSwapsKept.nextRef
    have hmanaged : ∀ w, Knows ref x w → Knows ref x { w with managed := true } :=
      fun _ h => h.congr rfl rfl
    exact (keeps_atStage (Keeps.bind hkeeps fun _ => Keeps.modify hmanaged)).final h
  | mainLoop =>
    have hkeeps : Keeps (Knows ref x) mainLoop := by
      unfold mainLoop
      refine Keeps.get fun w => Keeps.bind (Keeps.forM fun item _ => Keeps.ite Keeps.pure ?_)
        fun _ => Keeps.modify fun _ h => h.congr rfl rfl
      exact Keeps.modify fun _ h => h.congr rfl rfl
    exact (keeps_atStage hkeeps).final h

end

end SubswapProvider
