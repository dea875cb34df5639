import SubswapProvider.Limits
import SubswapProvider.Locking

/-!
# Every live swap is watched

`main_loop` watches each swap that is not redeemed, and a swap that is created is watched from then on. The
table and the callbacks of the chain monitor are changed by six functions at different points, though.
`Tended` says what holds of them between the steps: a swap in the table that is not redeemed has its
callback registered under its lockup address. A step keeps it (`step_tended`) where it is `Careful`: no
swap is stored whose address cannot be imported, no swap is given up that stays in the table, and no
address is taken twice.
-/

namespace SubswapProvider

open Deployment Effect

/-! ## Addresses -/

/-- The lockup addresses of the swaps in the table that are not redeemed. -/
def World.liveAddresses (w : World) : List Address :=
  (w.swaps.items.filter fun item => !(w.heap item.2).isRedeemed).map fun item =>
    (w.heap item.2).lockupAddress

/-- Each swap in the table that is not redeemed has its claim callback registered under its lockup
address. -/
def World.LiveWatched (w : World) : Prop :=
  ∀ k ref, w.swaps.get? k = some ref → (w.heap ref).isRedeemed = false →
    w.lnwatcherCallbacks.get? (w.heap ref).lockupAddress = some ref

/-- A swap that fails takes everything away that is live at its lockup address: that is only itself,
and no funding transaction is recorded that would keep it in the table. -/
def World.LeavesNone (w : World) (ref : SwapRef) : Prop :=
  ∀ item ∈ w.swaps.items, (w.heap item.2).isRedeemed = false →
    (w.heap item.2).lockupAddress = (w.heap ref).lockupAddress →
    item.2 = ref ∧ (w.heap ref).fundingTxid = none

/-- `_claim_swap` gives the swap up: it finds no output to go on with, and the locktime is over. -/
def World.Expires (w : World) (env : Env) (ref : SwapRef) : Prop :=
  env.isUpToDate = some true ∧ (env.localHeight.any fun height => (w.heap ref).locktime ≤ height) = true ∧
  ((env.addrOutputs (w.heap ref).lockupAddress).any fun txos =>
    (selectTxo (w.heap ref) txos).toOption = some none) = true

/-- A payment task ends with `_fail_swap`. -/
def PayTask.Fails (w : World) (env : Env) (result : PayResult) : PayTask → Prop
  | .spawned key => w.invoices.get? key = none
  | .paying _ invoice =>
    match result with
    | .raised => True
    | .failed => invoice.hasExpired env = true
    | .paid => False

section

variable [Deployment]

/-- The step leaves every live swap watched. -/
def Careful (w : World) : Action → Prop
  -- a new address that can be imported, if the swap is stored before it is
  | .request env (.createswap _ _ _ preimageHash claimPublicKey) => ∀ height ∈ env.localHeight,
    lockupAddressAt env preimageHash claimPublicKey height ∉ w.liveAddresses ∧
    (w.swaps.contains (hex preimageHash) = true ∨
      env.importdescriptors (lockupAddressAt env preimageHash claimPublicKey height) = true)
  | .request env (.createnormalswap _ refundPublicKey) => ∀ height ∈ env.localHeight,
    reverseLockupAddressAt env refundPublicKey height ∉ w.liveAddresses
  -- a funding transaction that is sent is accepted
  | .callbacks env => w.running = true → env.sendpsbt = true
  | .claim env address => ∀ ref ∈ w.lnwatcherCallbacks.get? address, w.Expires env ref → w.LeavesNone ref
  | .payTask env n result => w.running = true → ∀ task ∈ w.payTasks[n]?, task.Fails w env result →
    ∀ ref ∈ w.swaps.get? task.key, w.LeavesNone ref
  | .mainLoop => w.liveAddresses.Nodup
  | _ => True

end

/-! ## What holds between the steps -/

/-- The swaps and their callbacks, in a process that serves clients or does not. -/
structure Tended (running : Bool) (w : World) : Prop where
  stage : w.running = running
  table : ∀ k ref, w.swaps.get? k = some ref → ref < w.nextRef ∧ hex (w.heap ref).paymentHash = k
  placed : ∀ address ref, w.lnwatcherCallbacks.get? address = some ref →
    ref < w.nextRef ∧ (w.heap ref).lockupAddress = address
  live : running = true → w.LiveWatched

/-- Neither the swaps nor their callbacks have changed, nor the stage of the process. -/
structure SwapsStay (w w' : World) : Prop where
  swaps : w'.swaps = w.swaps
  heap : w'.heap = w.heap
  nextRef : w'.nextRef = w.nextRef
  lnwatcherCallbacks : w'.lnwatcherCallbacks = w.lnwatcherCallbacks
  running : w'.running = w.running

section

variable {running : Bool} {w w' : World} {ref : SwapRef}

theorem SwapsStay.refl (w : World) : SwapsStay w w := ⟨rfl, rfl, rfl, rfl, rfl⟩

theorem SwapsStay.trans {w'' : World} (h : SwapsStay w w') (h' : SwapsStay w' w'') : SwapsStay w w'' where
  swaps := h'.swaps.trans h.swaps
  heap := h'.heap.trans h.heap
  nextRef := h'.nextRef.trans h.nextRef
  lnwatcherCallbacks := h'.lnwatcherCallbacks.trans h.lnwatcherCallbacks
  running := h'.running.trans h.running

theorem SwapsSame.stay (h : SwapsSame w w') : SwapsStay w w' where
  swaps := h.swaps
  heap := h.heap
  nextRef := h.nextRef
  lnwatcherCallbacks := h.lnwatcherCallbacks
  running := by
    unfold World.running
    rw [h.invoicesToPay]

theorem Tended.stay (hs : SwapsStay w w') (h : Tended running w) : Tended running w' where
  stage := hs.running.trans h.stage
  table k ref href := by
    rw [hs.swaps] at href
    rw [hs.nextRef, hs.heap]
    exact h.table k ref href
  placed address ref href := by
    rw [hs.lnwatcherCallbacks] at href
    rw [hs.nextRef, hs.heap]
    exact h.placed address ref href
  live hrun k ref href hlive := by
    rw [hs.swaps] at href
    rw [hs.heap] at hlive ⊢
    rw [hs.lnwatcherCallbacks]
    exact h.live hrun k ref href hlive

/-- An assignment that neither moves the swap nor takes back that it is redeemed. -/
theorem Tended.assign {f : SwapData → SwapData} (hf : Unlabelling f)
    (hredeemed : ∀ swap, (f swap).isRedeemed = false → swap.isRedeemed = false)
    (h : Tended running w) : Tended running (w.assign ref f) := by
  have hl := hf.labelled ref w
  have hlive : ∀ ref', ((w.assign ref f).heap ref').isRedeemed = false →
      (w.heap ref').isRedeemed = false := by
    intro ref' hnot
    rw [World.assign_heap] at hnot
    by_cases heq : ref' = ref
    · subst heq
      rw [Function.update_self] at hnot
      exact hredeemed _ hnot
    · rw [Function.update_of_ne heq] at hnot
      exact hnot
  refine ⟨?_, fun k ref' href => ?_, fun address ref' href => ?_, fun hrun k ref' href hnot => ?_⟩
  · have hstage := h.stage
    unfold World.running at hstage ⊢
    rw [World.assign_invoicesToPay]
    exact hstage
  · rw [World.assign_swaps] at href
    rw [hl.nextRef, hl.paymentHash]
    exact h.table k ref' href
  · rw [World.assign_lnwatcherCallbacks] at href
    rw [hl.nextRef, hl.lockupAddress]
    exact h.placed address ref' href
  · rw [World.assign_swaps] at href
    rw [hl.lockupAddress, World.assign_lnwatcherCallbacks]
    exact h.live hrun k ref' href (hlive ref' hnot)

/-- A new object is no swap of the table yet. -/
theorem Tended.alloc (swap : SwapData) (h : Tended running w) : Tended running (w.allocSwap swap) := by
  have hold : ∀ ref, ref < w.nextRef → (w.allocSwap swap).heap ref = w.heap ref :=
    fun ref href => Function.update_of_ne (Nat.ne_of_lt href) _ _
  refine ⟨h.stage, fun k ref href => ?_, fun address ref href => ?_, fun hrun k ref href hnot => ?_⟩
  · obtain ⟨hlt, hk⟩ := h.table k ref href
    rw [hold ref hlt]
    exact ⟨Nat.lt_succ_of_lt hlt, hk⟩
  · obtain ⟨hlt, haddress⟩ := h.placed address ref href
    rw [hold ref hlt]
    exact ⟨Nat.lt_succ_of_lt hlt, haddress⟩
  · have hlt := (h.table k ref href).1
    rw [hold ref hlt] at hnot ⊢
    exact h.live hrun k ref href hnot

/-- What `setSwap` changes of an object. -/
theorem World.heap_setSwap (k : Hex) (ref ref' : SwapRef) (w : World) :
    ((w.setSwap k ref).heap ref').paymentHash = (w.heap ref').paymentHash ∧
      ((w.setSwap k ref).heap ref').lockupAddress = (w.heap ref').lockupAddress ∧
      ((w.setSwap k ref).heap ref').isRedeemed = (w.heap ref').isRedeemed := by
  have hheap : (w.setSwap k ref).heap = Function.update w.heap ref { w.heap ref with db := true } := rfl
  rw [hheap]
  by_cases heq : ref' = ref
  · subst heq
    rw [Function.update_self]
    exact ⟨rfl, rfl, rfl⟩
  · rw [Function.update_of_ne heq]
    exact ⟨rfl, rfl, rfl⟩

/-- Storing a swap that is watched. -/
theorem Tended.setSwap (h : Tended running w) (href : ref < w.nextRef)
    (hwatched : w.lnwatcherCallbacks.get? (w.heap ref).lockupAddress = some ref) :
    Tended running (w.setSwap (hex (w.heap ref).paymentHash) ref) := by
  have hheap := World.heap_setSwap (hex (w.heap ref).paymentHash) ref (w := w)
  have hget : ∀ k ref', (w.setSwap (hex (w.heap ref).paymentHash) ref).swaps.get? k = some ref' →
      (k = hex (w.heap ref).paymentHash ∧ ref' = ref) ∨ w.swaps.get? k = some ref' := by
    intro k ref' hk
    have hset : (w.swaps.set (hex (w.heap ref).paymentHash) ref).get? k = some ref' := hk
    rw [Dict.get?_set] at hset
    split at hset
    · next heq => exact .inl ⟨heq, (Option.some.inj hset).symm⟩
    · exact .inr hset
  refine ⟨h.stage, fun k ref' hk => ?_, fun address ref' hk => ?_, fun hrun k ref' hk hnot => ?_⟩
  · rw [(hheap ref').1]
    rcases hget k ref' hk with ⟨rfl, rfl⟩ | hold
    · exact ⟨href, rfl⟩
    · exact h.table k ref' hold
  · rw [(hheap ref').2.1]
    exact h.placed address ref' hk
  · rw [(hheap ref').2.2] at hnot
    rw [(hheap ref').2.1]
    rcases hget k ref' hk with ⟨rfl, rfl⟩ | hold
    · exact hwatched
    · exact h.live hrun k ref' hold hnot

/-- `add_lnwatcher_callback`. -/
def World.watch (ref : SwapRef) (w : World) : World :=
  { w with lnwatcherCallbacks := w.lnwatcherCallbacks.set (w.heap ref).lockupAddress ref }

/-- No live swap but `ref` has its address. -/
def World.Sole (w : World) (ref : SwapRef) : Prop :=
  ∀ k ref', w.swaps.get? k = some ref' → (w.heap ref').isRedeemed = false →
    (w.heap ref').lockupAddress = (w.heap ref).lockupAddress → ref' = ref

theorem Tended.watch (h : Tended running w) (href : ref < w.nextRef) (hsole : w.Sole ref) :
    Tended running (w.watch ref) := by
  refine ⟨h.stage, h.table, fun address ref' hget => ?_, fun hrun k ref' hk hnot => ?_⟩
  · dsimp only [World.watch] at hget ⊢
    rw [Dict.get?_set] at hget
    split at hget
    · next heq =>
      cases hget
      exact ⟨href, heq.symm⟩
    · exact h.placed address ref' hget
  · dsimp only [World.watch] at hk hnot ⊢
    rw [Dict.get?_set]
    split
    · next heq => rw [hsole k ref' hk hnot heq]
    · exact h.live hrun k ref' hk hnot

theorem World.watch_setSwap (k : Hex) (ref : SwapRef) (w : World) :
    (w.setSwap k ref).watch ref = (w.watch ref).setSwap k ref := by
  unfold World.watch
  rw [(World.heap_setSwap k ref ref w).2.1]
  rfl

/-- Storing a swap and watching it. -/
theorem Tended.store (h : Tended running w) (href : ref < w.nextRef) (hsole : w.Sole ref) :
    Tended running ((w.setSwap (hex (w.heap ref).paymentHash) ref).watch ref) := by
  rw [World.watch_setSwap]
  refine (h.watch href hsole).setSwap href ?_
  show (w.lnwatcherCallbacks.set (w.heap ref).lockupAddress ref).get? (w.heap ref).lockupAddress = _
  rw [Dict.get?_set, if_pos rfl]

/-- Giving up an address, after which no live swap has it. -/
theorem Tended.unwatch {address : Address} (h : Tended running w)
    (hnone : running = true → ∀ k ref', w.swaps.get? k = some ref' → (w.heap ref').isRedeemed = false →
      (w.heap ref').lockupAddress ≠ address) :
    Tended running { w with lnwatcherCallbacks := w.lnwatcherCallbacks.pop address } := by
  refine ⟨h.stage, h.table, fun address' ref' hget => ?_, fun hrun k ref' hk hnot => ?_⟩
  · exact h.placed address' ref' (Dict.get?_of_pop hget).2
  · dsimp only at hk hnot ⊢
    rw [Dict.get?_pop_ne _ (hnone hrun k ref' hk hnot)]
    exact h.live hrun k ref' hk hnot

theorem World.get?_popSwap {k k' : Hex} {w : World} (h : (w.popSwap k).swaps.get? k' = some ref) :
    k' ≠ k ∧ w.swaps.get? k' = some ref := by
  unfold World.popSwap at h
  split at h
  · have hpop : (w.swaps.pop k).get? k' = some ref := h
    rw [Dict.get?_pop] at hpop
    split at hpop
    · cases hpop
    · next hne => exact ⟨hne, hpop⟩
  · next hnone =>
    refine ⟨fun heq => hnone ?_, h⟩
    rw [← heq]
    exact Dict.contains_iff.mpr ⟨ref, h⟩

theorem World.popSwap_rest (k : Hex) (w : World) :
    (w.popSwap k).heap = w.heap ∧ (w.popSwap k).nextRef = w.nextRef ∧
      (w.popSwap k).lnwatcherCallbacks = w.lnwatcherCallbacks ∧ (w.popSwap k).running = w.running := by
  unfold World.popSwap
  split
  · exact ⟨rfl, rfl, rfl, rfl⟩
  · exact ⟨rfl, rfl, rfl, rfl⟩

theorem Tended.popSwap (k : Hex) (h : Tended running w) : Tended running (w.popSwap k) := by
  obtain ⟨hheap, hnext, hcallbacks, hrunning⟩ := World.popSwap_rest k w
  refine ⟨hrunning.trans h.stage, fun k' ref' hk => ?_, fun address ref' hk => ?_,
    fun hrun k' ref' hk hnot => ?_⟩
  · rw [hheap, hnext]
    exact h.table k' ref' (World.get?_popSwap hk).2
  · rw [hcallbacks] at hk
    rw [hheap, hnext]
    exact h.placed address ref' hk
  · rw [hheap] at hnot ⊢
    rw [hcallbacks]
    exact h.live hrun k' ref' (World.get?_popSwap hk).2 hnot

/-- Giving up the address of a swap and taking it out of the table. -/
theorem Tended.drop {address : Address} {k : Hex} (h : Tended running w)
    (honly : running = true → ∀ k' ref', w.swaps.get? k' = some ref' →
      (w.heap ref').isRedeemed = false → (w.heap ref').lockupAddress = address → k' = k) :
    Tended running ({ w with lnwatcherCallbacks := w.lnwatcherCallbacks.pop address }.popSwap k) := by
  have hcomm : { w with lnwatcherCallbacks := w.lnwatcherCallbacks.pop address }.popSwap k =
      { w.popSwap k with lnwatcherCallbacks := (w.popSwap k).lnwatcherCallbacks.pop address } := by
    unfold World.popSwap
    dsimp only
    split
    · rfl
    · rfl
  rw [hcomm]
  refine (h.popSwap k).unwatch fun hrun k' ref' hk hnot haddress => ?_
  obtain ⟨hne, hget⟩ := World.get?_popSwap hk
  rw [(World.popSwap_rest k w).1] at hnot haddress
  exact hne (honly hrun k' ref' hget hnot haddress)

end

/-! ## Programs that leave the swaps alone -/

section

variable {running : Bool} {env : Env}

theorem stay_of_same {α : Type} {p : PyM α} (h : ∀ w, Keeps (SwapsSame w) p) (w : World) :
    Keeps (SwapsStay w) p :=
  Keeps.of_rel h SwapsSame.refl fun _ _ hst hs => hs.trans hst.stay

theorem Tended.of_stay {α : Type} {p : PyM α} (h : ∀ w, Keeps (SwapsStay w) p) :
    Keeps (Tended running) p :=
  Keeps.of_rel h SwapsStay.refl fun _ _ hst hs => hs.stay hst

theorem SwapsStay.setToPay {w : World} {toPay : Dict Hex Nat} (h : w.invoicesToPay = some toPay)
    (toPay' : Dict Hex Nat) : SwapsStay w { w with invoicesToPay := some toPay' } := by
  refine ⟨rfl, rfl, rfl, rfl, ?_⟩
  unfold World.running
  rw [h]
  rfl

theorem stay_popInvoiceToPay (k : Hex) (w : World) : Keeps (SwapsStay w) (popInvoiceToPay k) := by
  refine Keeps.getBind fun w' hw' => ?_
  split
  · exact Triple.throw fun s hs => hs ▸ hw'
  · next toPay htoPay =>
    refine Triple.modify fun s hs => ?_
    subst hs
    exact hw'.trans (.setToPay htoPay _)

theorem stay_setInvoiceToPay (k : Hex) (not_before : Nat) (w : World) :
    Keeps (SwapsStay w) (setInvoiceToPay k not_before) := by
  refine Keeps.getBind fun w' hw' => ?_
  split
  · exact Triple.throw fun s hs => hs ▸ hw'
  · next toPay htoPay =>
    refine Triple.modify fun s hs => ?_
    subst hs
    exact hw'.trans (.setToPay htoPay _)

theorem stay_queuePayment (ref : SwapRef) (remaining_time conf : Int) (w : World) :
    Keeps (SwapsStay w) (queuePayment ref remaining_time conf) := by
  refine Keeps.getBind fun w' hw' => ?_
  split
  · exact Triple.pure fun s hs => hs ▸ hw'
  · split
    · exact Triple.throw fun s hs => hs ▸ hw'
    · next toPay htoPay =>
      have hset : ∀ toPay', Triple (· = w')
          (modify fun w => { w with invoicesToPay := some toPay' } : PyM PUnit)
          (fun _ => SwapsStay w) fun _ => SwapsStay w := by
        refine fun toPay' => Triple.modify fun s hs => ?_
        subst hs
        exact hw'.trans (.setToPay htoPay _)
      split
      · exact hset _
      · dsimp only
        split
        · exact Triple.pure fun s hs => hs ▸ hw'
        · exact hset _

/-! ## The ends of a swap -/

/-- The live swaps at an address are stored under `k`. -/
def World.OnlyAt (w : World) (address : Address) (k : Hex) : Prop :=
  ∀ k' ref', w.swaps.get? k' = some ref' → (w.heap ref').isRedeemed = false →
    (w.heap ref').lockupAddress = address → k' = k

/-- The address has been given up, and what is stored under `k` is still to be popped. -/
def Leaving (running : Bool) (address : Address) (k : Hex) (s : World) : Prop :=
  ∃ w, Tended running w ∧ (running = true → w.OnlyAt address k) ∧
    s = { w with lnwatcherCallbacks := w.lnwatcherCallbacks.pop address }

theorem triple_removeCallback (address : Address) (k : Hex) :
    Triple (fun s => Tended running s ∧ (running = true → s.OnlyAt address k))
      (removeCallback address) (fun _ => Leaving running address k) fun _ => Tended running :=
  Triple.modify fun s hs => ⟨s, hs.1, hs.2, rfl⟩

theorem triple_popSwapOrRaise (address : Address) (k : Hex) :
    Triple (Leaving running address k) (popSwapOrRaise k) (fun _ => Tended running)
      fun _ => Tended running := by
  refine Triple.getBind fun s hs => ?_
  obtain ⟨w, hw, honly, rfl⟩ := hs
  split
  · refine Triple.modify fun s hs => ?_
    subst hs
    exact hw.drop honly
  · next hnone =>
    refine Triple.throw fun s hs => ?_
    subst hs
    refine hw.unwatch fun hrun k' ref' hk hnot haddress => hnone ?_
    rw [← honly hrun k' ref' hk hnot haddress]
    exact Dict.contains_iff.mpr ⟨ref', hk⟩

theorem World.LeavesNone.onlyAt {w : World} {ref : SwapRef} (h : w.LeavesNone ref)
    (ht : Tended running w) :
    w.OnlyAt (w.heap ref).lockupAddress (hex (w.heap ref).paymentHash) := by
  intro k ref' hk hnot haddress
  obtain ⟨rfl, -⟩ := h (k, ref') (Dict.mem_of_get? hk) hnot haddress
  exact (ht.table k ref' hk).2.symm

theorem tended_failSwap (ref : SwapRef) :
    Triple (fun s => Tended running s ∧ (running = true → s.LeavesNone ref)) (failSwap env ref)
      (fun _ => Tended running) fun _ => Tended running := by
  unfold failSwap
  refine Triple.getBind fun w hw => ?_
  obtain ⟨htended, hleaves⟩ := hw
  have hfirst : ∀ p : PyM Unit, Keeps (SwapsStay w) p →
      Triple (· = w) p (fun _ => SwapsStay w) fun _ => Tended running := fun p hp =>
    hp.conseq (fun s hs => hs ▸ SwapsStay.refl w) (fun _ _ hs => hs) fun _ _ hs => htended.stay hs
  refine Triple.bind (hfirst _ (Keeps.ite ?_ ?_)) fun _ => ?_
  · -- the branch for hold invoices does not look at the swaps
    refine stay_of_same (fun w => ?_) w
    refine Keeps.bind (same_unregister w _) fun _ => Keeps.forM fun payment_hash _ => Keeps.get fun s => ?_
    split
    · exact same_deletePaymentInfo env w _ _
    · exact Keeps.bind (same_cancelAllHtlcs w _) fun _ =>
        Keeps.bind (same_deleteHoldInvoice env w _ _) fun _ => same_deletePaymentInfo env w _ _
  · exact Keeps.bind (stay_of_same (fun w => same_deleteInvoice env w _ _) w) fun _ =>
      stay_popInvoiceToPay _ w
  · have honly : ∀ s, SwapsStay w s → Tended running s ∧
        (running = true → s.OnlyAt (w.heap ref).lockupAddress (hex (w.heap ref).paymentHash)) := by
      intro s hs
      refine ⟨htended.stay hs, fun hrun k ref' hk hnot haddress => ?_⟩
      rw [hs.swaps] at hk
      rw [hs.heap] at hnot haddress
      exact (hleaves hrun).onlyAt htended k ref' hk hnot haddress
    have hwrite : Keeps (Tended running) (dbWrite env) :=
      Tended.of_stay (stay_of_same fun w => same_dbWrite env w)
    split
    · exact Triple.bind ((triple_removeCallback _ _).pre honly) fun _ =>
        Triple.bind (triple_popSwapOrRaise _ _) fun _ => hwrite
    · next hstays =>
      -- the swap stays, so nothing live was at its address
      refine Triple.bind (R := fun _ => Tended running) (Triple.modify fun s hs => ?_) fun _ =>
        Triple.bind Keeps.pure fun _ => hwrite
      refine (htended.stay hs).unwatch fun hrun k ref' hk hnot haddress => hstays ?_
      rw [hs.swaps] at hk
      rw [hs.heap] at hnot haddress
      obtain ⟨-, hnone⟩ := hleaves hrun (k, ref') (Dict.mem_of_get? hk) hnot haddress
      rw [hnone]
      rfl

theorem tended_failSwapOf (key : Hex) :
    Triple (fun s => Tended running s ∧
        (running = true → ∀ ref ∈ s.swaps.get? key, s.LeavesNone ref)) (failSwapOf env key)
      (fun _ => Tended running) fun _ => Tended running := by
  unfold failSwapOf
  refine Triple.getBind fun w hw => ?_
  split
  · exact Triple.pure fun s hs => hs ▸ hw.1
  · next ref href =>
    refine (tended_failSwap ref).pre fun s hs => ?_
    subst hs
    exact ⟨hw.1, fun hrun => hw.2 hrun ref href⟩

end

/-! ## The chain monitor -/

/-- A swap that is watched at its address, as the chain monitor calls it. -/
structure Attended (running : Bool) (ref : SwapRef) (w : World) : Prop extends Tended running w where
  own : w.lnwatcherCallbacks.get? (w.heap ref).lockupAddress = some ref

namespace Attended

variable {running : Bool} {env : Env} {w w' : World} {ref : SwapRef}

theorem stay (hs : SwapsStay w w') (h : Attended running ref w) : Attended running ref w' :=
  ⟨h.toTended.stay hs, by rw [hs.heap, hs.lnwatcherCallbacks]; exact h.own⟩

theorem assign {f : SwapData → SwapData} (hf : Unlabelling f)
    (hredeemed : ∀ swap, (f swap).isRedeemed = false → swap.isRedeemed = false)
    (h : Attended running ref w) : Attended running ref (w.assign ref f) := by
  refine ⟨h.toTended.assign hf hredeemed, ?_⟩
  rw [World.assign_lnwatcherCallbacks, (hf.labelled ref w).lockupAddress]
  exact h.own

/-- Who is live at the address is the swap itself. -/
theorem only (h : Attended running ref w) (hrun : running = true) {k : Hex} {ref' : SwapRef}
    (hk : w.swaps.get? k = some ref') (hnot : (w.heap ref').isRedeemed = false)
    (haddress : (w.heap ref').lockupAddress = (w.heap ref).lockupAddress) : ref' = ref := by
  have hlive : w.lnwatcherCallbacks.get? (w.heap ref').lockupAddress = some ref' := h.live hrun k ref' hk hnot
  rw [haddress, h.own] at hlive
  exact (Option.some.inj hlive).symm

theorem onlyAt (h : Attended running ref w) (hrun : running = true) :
    w.OnlyAt (w.heap ref).lockupAddress (hex (w.heap ref).paymentHash) := by
  intro k ref' hk hnot haddress
  obtain rfl := h.only hrun hk hnot haddress
  exact (h.table k ref' hk).2.symm

/-- Nothing is live at the address of a redeemed swap. -/
theorem vacant (h : Attended running ref w) (hredeemed : (w.heap ref).isRedeemed = true)
    (hrun : running = true) {k : Hex} {ref' : SwapRef} (hk : w.swaps.get? k = some ref')
    (hnot : (w.heap ref').isRedeemed = false) :
    (w.heap ref').lockupAddress ≠ (w.heap ref).lockupAddress := by
  intro haddress
  obtain rfl := h.only hrun hk hnot haddress
  rw [hredeemed] at hnot
  cases hnot

theorem of_stay {α : Type} {p : PyM α} (h : ∀ w, Keeps (SwapsStay w) p) :
    Keeps (Attended running ref) p :=
  Keeps.of_rel h SwapsStay.refl fun _ _ hst hs => hs.stay hst

theorem keeps_assign {f : SwapData → SwapData} (hf : Unlabelling f)
    (hredeemed : ∀ swap, (f swap).isRedeemed = false → swap.isRedeemed = false) :
    Keeps (Attended running ref) (modify (World.assign ref f) : PyM PUnit) :=
  Keeps.modify fun _ hs => hs.assign hf hredeemed

theorem keeps_spendingTxid (t : Option Txid) : Keeps (Attended running ref)
    (modify (World.assign ref fun swap => { swap with spendingTxid := t }) : PyM PUnit) :=
  keeps_assign ⟨fun _ => rfl, fun _ => rfl, fun _ => rfl⟩ fun _ => id

theorem triple_isRedeemed : Triple (Attended running ref)
    (modify (World.assign ref fun swap => { swap with isRedeemed := true }) : PyM PUnit)
    (fun _ s => Attended running ref s ∧ (s.heap ref).isRedeemed = true) fun _ => Tended running := by
  refine Triple.modify fun s hs => ⟨hs.assign ⟨fun _ => rfl, fun _ => rfl, fun _ => rfl⟩ ?_, ?_⟩
  · exact fun swap hnot => nomatch hnot
  · rw [World.assign_heap_self]

theorem keeps_emit (e : Event) : Keeps (Attended running ref) (emit e) :=
  of_stay (stay_of_same fun w => same_emit w e)

theorem triple_deleteFinished :
    Triple (fun s => Attended running ref s ∧ (s.heap ref).isRedeemed = true)
      (deleteFinishedReverseSwap env ref) (fun _ => Tended running) fun _ => Tended running := by
  unfold deleteFinishedReverseSwap
  refine Triple.getBind fun w hw => ?_
  obtain ⟨hattended, hredeemed⟩ := hw
  have hfirst : Triple (· = w) (deleteInvoice env (hex (w.heap ref).paymentHash) false)
      (fun _ => SwapsStay w) fun _ => Tended running :=
    (stay_of_same (fun w => same_deleteInvoice env w _ _) w).conseq (fun s hs => hs ▸ SwapsStay.refl w)
      (fun _ _ hs => hs) fun _ _ hs => hattended.toTended.stay hs
  have hpop : Keeps (Tended running) (modify (World.popSwap (hex (w.heap ref).paymentHash)) : PyM PUnit) :=
    Keeps.modify fun _ hs => hs.popSwap _
  refine Triple.bind hfirst fun _ => Triple.bind (R := fun _ => Tended running)
    (Triple.modify fun s hs => ?_) fun _ => Keeps.bind (Tended.of_stay (stay_popInvoiceToPay _)) fun _ =>
    Keeps.bind (Keeps.ite hpop Keeps.pure) fun _ =>
    Tended.of_stay (stay_of_same fun w => same_dbWrite env w)
  refine (hattended.toTended.stay hs).unwatch fun hrun k ref' hk hnot => ?_
  rw [hs.swaps] at hk
  rw [hs.heap] at hnot ⊢
  exact hattended.vacant hredeemed hrun hk hnot

theorem triple_failRedeemed :
    Triple (fun s => Attended running ref s ∧ (s.heap ref).isRedeemed = true) (failSwap env ref)
      (fun _ => Tended running) fun _ => Tended running := by
  refine (tended_failSwap ref).pre fun s hs => ⟨hs.1.toTended, fun hrun item hitem hnot haddress => ?_⟩
  exact absurd haddress (hs.1.vacant hs.2 hrun (Dict.get?_of_mem hitem) hnot)

variable [Deployment]

theorem triple_finishNormalSwap :
    Triple (Attended running ref) (finishNormalSwap env ref) (fun _ => Tended running)
      fun _ => Tended running := by
  unfold finishNormalSwap
  refine Triple.getBind fun w hw => ?_
  have hstop : ∀ s, SwapsStay w s → Tended running s := fun s hs => hw.toTended.stay hs
  have hkeep : ∀ {α : Type} {p : PyM α}, (∀ w, Keeps (SwapsSame w) p) →
      Triple (SwapsStay w) p (fun _ => SwapsStay w) fun _ => Tended running :=
    fun hp => (stay_of_same hp w).conseq (fun _ hs => hs) (fun _ _ hs => hs) fun _ => hstop
  refine Triple.pre (R := SwapsStay w) ?_ fun s hs => hs ▸ SwapsStay.refl w
  refine triple_pyAssert hstop fun _ => ?_
  split
  · exact Triple.throw hstop
  · refine Triple.bind (hkeep fun w => same_settleInvoice w _ _) fun _ =>
      Triple.bind (hkeep fun w => same_deleteHoldInvoice env w _ _) fun _ =>
      Triple.bind (R := fun _ => SwapsStay w) ?_ fun _ =>
      Triple.bind (hkeep fun w => same_deletePaymentInfo env w _ _) fun _ =>
      Triple.bind ((triple_removeCallback _ _).pre fun s hs => ⟨hstop s hs, fun hrun => ?_⟩) fun _ =>
      Triple.bind (triple_popSwapOrRaise _ _) fun _ =>
      Tended.of_stay (stay_of_same fun w => same_dbWrite env w)
    · split
      · exact hkeep fun w => same_deleteHoldInvoice env w _ _
      · exact Triple.pure fun _ hs => hs
    · have honly := (hw.stay hs).onlyAt hrun
      rw [hs.heap] at honly
      exact honly

/-- What the look at a spending transaction leaves behind. -/
def AfterSpend (running : Bool) (ref : SwapRef) : SpendOutcome → World → Prop
  | .goOn _ => Attended running ref
  | _ => Tended running

theorem triple_inspectSpend (txin : PartialTxInput) (spent_height : Nat) :
    Triple (Attended running ref) (inspectSpend env ref txin spent_height)
      (AfterSpend running ref) fun _ => Tended running := by
  unfold inspectSpend
  have hstop : ∀ s, Attended running ref s → Tended running s := fun s hs => hs.toTended
  refine Triple.getBind fun w hw => Triple.pre (R := Attended running ref) ?_ fun s hs => hs ▸ hw
  refine triple_orRaise hstop fun _ _ => triple_orRaise hstop fun _ _ => triple_orRaise hstop
    fun claim_tx _ => Triple.bind (R := fun _ => Attended running ref)
    ((keeps_liftExcept _).conseq (fun _ hs => hs) (fun _ _ hs => hs) fun _ => hstop) fun extracted => ?_
  cases extracted with
  | some preimage =>
    unfold handleExtracted
    refine Triple.bind (R := fun _ => Attended running ref) (Triple.modify fun s hs => ?_) fun _ =>
      Triple.bind triple_finishNormalSwap fun _ => Triple.pure fun _ hs => hs
    exact hs.assign ⟨fun _ => rfl, fun _ => rfl, fun _ => rfl⟩ fun _ => id
  | none =>
    unfold handleExtracted
    dsimp only
    split
    · exact Triple.bind triple_isRedeemed fun _ => Triple.bind triple_failRedeemed fun _ =>
        Triple.pure fun _ hs => hs
    · split
      · exact triple_orRaise hstop fun _ _ => Triple.pure fun _ hs => hs
      · exact Triple.pure fun _ hs => hs

theorem triple_takeRefund (txin : PartialTxInput) (remaining_time conf : Int) (outcome : SpendOutcome) :
    Triple (AfterSpend running ref outcome) (takeRefund env ref txin remaining_time conf outcome)
      (fun _ => Tended running) fun _ => Tended running := by
  cases outcome with
  | finished => exact Triple.pure fun _ hs => hs
  | refunded => exact Triple.pure fun _ hs => hs
  | goOn should_bump_fee =>
    have hkeeps : Keeps (Attended running ref)
        (takeRefund env ref txin remaining_time conf (.goOn should_bump_fee)) :=
      keeps_takeRefund env txin (fun t => keeps_spendingTxid t) (fun tx => keeps_emit _) _ _ _
    exact hkeeps.conseq (fun _ hs => hs) (fun _ _ hs => hs.toTended) fun _ _ hs => hs.toTended

theorem triple_claimNormal (txin : PartialTxInput) (remaining_time conf : Int) :
    Triple (Attended running ref) (claimNormal env ref txin remaining_time conf)
      (fun _ => Tended running) fun _ => Tended running := by
  unfold claimNormal
  refine Triple.getBind fun w hw => Triple.pre (R := Attended running ref) ?_ fun s hs => hs ▸ hw
  refine Triple.bind (R := AfterSpend running ref) ?_ fun outcome => triple_takeRefund txin _ _ outcome
  split
  · exact triple_inspectSpend txin _
  · exact Triple.pure fun _ hs => hs

theorem triple_claimReverse (txin : PartialTxInput) (remaining_time conf : Int) :
    Triple (Attended running ref) (claimReverse env ref txin remaining_time conf)
      (fun _ => Tended running) fun _ => Tended running := by
  have hkeeps : Keeps (Attended running ref) (claimReverse env ref txin remaining_time conf) := by
    unfold claimReverse
    refine Keeps.get fun w => Keeps.bind ?_ fun _ => Keeps.get fun w => Keeps.ite
      (of_stay (stay_queuePayment ref _ _)) (Keeps.ite Keeps.pure
      (keeps_broadcastClaim env txin (fun t => keeps_spendingTxid t) (fun tx => keeps_emit _) _))
    split
    · exact Keeps.pure
    · exact Keeps.bind (keeps_getPreimage _) fun _ =>
        keeps_assign ⟨fun _ => rfl, fun _ => rfl, fun _ => rfl⟩ fun _ => id
  exact hkeeps.conseq (fun _ hs => hs) (fun _ _ hs => hs.toTended) fun _ _ hs => hs.toTended

/-- `_claim_swap`, for a swap that is not given up or leaves none behind. -/
theorem triple_claimSwap :
    Triple (fun s => Attended running ref s ∧ (s.Expires env ref → s.LeavesNone ref))
      (claimSwap env ref) (fun _ => Tended running) fun _ => Tended running := by
  have hstop : ∀ s, Attended running ref s → Tended running s := fun s hs => hs.toTended
  refine Triple.at fun w hw => ?_
  obtain ⟨hattended, hexpires⟩ := hw
  have hstop' : ∀ s, s = w → Tended running s := fun s hs => hs ▸ hattended.toTended
  unfold claimSwap
  refine triple_orRaise hstop' fun upToDate hup => ?_
  split
  · next htrue =>
    refine triple_orRaise hstop' fun current_height hheight => Triple.getBind fun s hs => ?_
    subst hs
    refine triple_orRaise hstop' fun txos htxos => ?_
    cases hselect : selectTxo (s.heap ref) txos with
    | error e => exact Triple.throw hstop'
    | ok selected =>
      show Triple (· = s) (claimSelected env ref _ current_height selected) _ _
      cases selected with
      | none =>
        unfold claimSelected
        dsimp only
        split
        · next hlate =>
          refine (tended_failSwap ref).pre fun s' hs' => ?_
          subst hs'
          refine ⟨hattended.toTended, fun _ => hexpires ⟨?_, ?_, ?_⟩⟩
          · rw [hup, htrue]
          · rw [hheight]
            simp only [Option.any_some, decide_eq_true_iff]
            omega
          · rw [htxos]
            simp only [Option.any_some, decide_eq_true_iff]
            rw [hselect]
            rfl
        · exact Triple.pure hstop'
      | some txin =>
        unfold claimSelected claimFunded
        refine Triple.pre (R := Attended running ref) ?_ fun s' hs' => hs' ▸ hattended
        refine Triple.bind (R := fun _ => Attended running ref) (Triple.modify fun s' hs' =>
          hs'.assign (unlabelling_fundingTxid _) fun _ => id) fun _ =>
          Triple.bind (R := fun _ => Attended running ref) ?_ fun _ => triple_orRaise hstop fun _ _ =>
          Triple.bind (R := fun _ => Attended running ref) ?_ fun _ => ?_
        · unfold addOrReindexSwap
          refine Triple.getBind fun s' hs' => ?_
          dsimp only
          split
          · exact Triple.pure fun _ heq => heq ▸ hs'
          · refine Triple.modify fun _ heq => ?_
            subst heq
            have href := (hs'.placed _ _ hs'.own).1
            refine ⟨hs'.toTended.setSwap href hs'.own, ?_⟩
            rw [(World.heap_setSwap _ ref ref _).2.1]
            exact hs'.own
        · split
          · exact (keeps_spendingTxid _).conseq (fun _ hs => hs) (fun _ _ hs => hs) fun _ => hstop
          · exact Triple.pure fun _ hs => hs
        · unfold claimLocated
          refine Triple.getBind fun s' hs' => Triple.pre (R := Attended running ref) ?_
            fun _ heq => heq ▸ hs'
          split
          · exact Triple.bind triple_isRedeemed fun _ => triple_deleteFinished
          · split
            · exact triple_claimReverse txin _ _
            · exact triple_claimNormal txin _ _
  · exact Triple.pure hstop'

end Attended

/-! ## The callback pass -/

section

variable {running : Bool} {env : Env}

theorem tended_holdInvoiceCallback (hsend : running = true → env.sendpsbt = true) (payment_hash : Bytes) :
    Keeps (Tended running) (holdInvoiceCallback env payment_hash) := by
  unfold holdInvoiceCallback
  refine Keeps.get fun w => ?_
  split
  · exact Keeps.pure
  · next ref _ =>
    refine Keeps.ite (Keeps.bind ?_ fun tx => ?_) Keeps.pure
    · refine Tended.of_stay (stay_of_same fun w => ?_)
      unfold createFundingTx
      exact Keeps.get fun _ => Keeps.bind (same_emit w _) fun _ => Keeps.bind (keeps_orRaise _ _)
        fun _ => keeps_createTransaction _ _
    · refine Triple.tryCatch (R := fun _ s => Tended running s ∧ running = false) ?_ fun _ =>
        (tended_failSwap ref).pre fun s hs => ⟨hs.1, fun hrun => ?_⟩
      · unfold broadcastFundingTx
        refine Triple.modifyBind (R := Tended running)
          (fun s hs => hs.assign (unlabelling_fundingTxid _) fun _ => id) ?_
        refine Triple.getBind fun w hw => Triple.modifyBind (R := Tended running) (fun s hs => ?_) ?_
        · subst hs
          exact Tended.stay (w := s) ⟨rfl, rfl, rfl, rfl, rfl⟩ hw
        · split
          · exact Triple.pure fun _ hs => hs
          · next hrefused =>
            refine Triple.throw fun s hs => ⟨hs, ?_⟩
            cases hr : running with
            | true => exact absurd (hsend hr) hrefused
            | false => rfl
      · rw [hs.2] at hrun
        cases hrun

variable [Deployment]

theorem tended_callbackHandler (hsend : running = true → env.sendpsbt = true) :
    Keeps (Tended running) (callbackHandler env (callOf env)) := by
  have hsame : ∀ {α : Type} {p : PyM α}, (∀ w, Keeps (SwapsSame w) p) → Keeps (Tended running) p :=
    fun hp => Tended.of_stay (stay_of_same hp)
  have hinvoke : ∀ (callback : HoldInvoiceCallback) invoice,
      Keeps (Tended running) (invokeCallback (callOf env callback) invoice) := by
    intro callback invoice
    cases callback
    exact Keeps.get fun _ => Keeps.bind (hsame fun w => same_emit w _) fun _ =>
      Keeps.bind (tended_holdInvoiceCallback hsend _) fun _ => hsame fun w => same_unregister w _
  refine Keeps.get fun _ => Keeps.tryCatch (Keeps.forM fun item _ => ?_) fun _ => Keeps.pure
  unfold handleCallback
  refine Keeps.get fun w => ?_
  split
  · exact Keeps.ite (hsame fun w => same_unregister w _) Keeps.throw
  · refine Keeps.ite ?_ Keeps.pure
    split
    · exact hinvoke _ _
    · split
      · exact Keeps.throw
      · exact Keeps.ite (Keeps.bind (keeps_getPreimage _) fun _ =>
          Keeps.bind (hsame fun w => same_settleInvoice w _ _) fun _ =>
          Keeps.bind (hsame fun w => same_updateInvoice env w _) fun _ => hinvoke _ _) Keeps.pure

end

/-! ## Payment tasks -/

section

variable {running : Bool} {env : Env} {w s : World}

theorem World.LeavesNone.stay {ref : SwapRef} (hs : SwapsStay w s) (h : w.LeavesNone ref) :
    s.LeavesNone ref := by
  unfold World.LeavesNone at h ⊢
  rw [hs.swaps, hs.heap]
  exact h

theorem triple_failSwapOf (hw : Tended running w) {key : Hex}
    (hleaves : running = true → ∀ ref ∈ w.swaps.get? key, w.LeavesNone ref) :
    Triple (SwapsStay w) (failSwapOf env key) (fun _ => Tended running) fun _ => Tended running := by
  refine (tended_failSwapOf key).pre fun s hs => ⟨hw.stay hs, fun hrun ref href => ?_⟩
  rw [hs.swaps] at href
  exact (hleaves hrun ref href).stay hs

theorem triple_payTaskStep (hw : Tended running w) {n : Nat} {result : PayResult}
    (hfails : running = true → ∀ task ∈ w.payTasks[n]?, task.Fails w env result →
      ∀ ref ∈ w.swaps.get? task.key, w.LeavesNone ref) :
    Triple (· = w) (payTaskStep env n result) (fun _ => Tended running) fun _ => Tended running := by
  have hstop : ∀ s, SwapsStay w s → Tended running s := fun s hs => hw.stay hs
  have hkeep : ∀ {p : PyM Unit}, Keeps (SwapsStay w) p →
      Triple (SwapsStay w) p (fun _ => Tended running) fun _ => Tended running :=
    fun hp => hp.conseq (fun _ hs => hs) (fun _ => hstop) fun _ => hstop
  unfold payTaskStep
  refine Triple.getBind fun w' hw' => ?_
  subst hw'
  split
  · exact Triple.pure fun s hs => hs ▸ hw
  · next task htask =>
    refine Triple.modifyBind (R := fun s => SwapsStay w' s ∧ s.invoices = w'.invoices)
      (fun s hs => hs ▸ ⟨⟨rfl, rfl, rfl, rfl, rfl⟩, rfl⟩) ?_
    cases task with
    | spawned key =>
      show Triple _ (payPendingLnInvoice env key) _ _
      unfold payPendingLnInvoice
      refine Triple.bind (R := fun _ s => SwapsStay w' s ∧ s.invoices = w'.invoices) ?_ fun _ => ?_
      · unfold setInvoiceToPay
        refine Triple.getBind fun s hs => ?_
        split
        · exact Triple.throw fun _ heq => heq ▸ hstop s hs.1
        · next toPay htoPay =>
          refine Triple.modify fun _ heq => ?_
          subst heq
          exact ⟨hs.1.trans (.setToPay htoPay _), hs.2⟩
      · refine Triple.getBind fun s hs => ?_
        split
        · next hnone =>
          rw [hs.2] at hnone
          exact (triple_failSwapOf hw fun hrun ref href => hfails hrun _ htask hnone ref href).pre
            fun _ heq => heq ▸ hs.1
        · refine Triple.modifyBind (R := SwapsStay w') (fun _ heq => ?_) ?_
          · subst heq
            exact hs.1.trans ⟨rfl, rfl, rfl, rfl, rfl⟩
          · exact hkeep (stay_of_same (fun w => same_emit w _) w')
    | paying key invoice =>
      refine Triple.pre (R := SwapsStay w') ?_ fun s hs => hs.1
      show Triple _ (paidLnInvoice env key invoice result) _ _
      cases result with
      | raised => exact triple_failSwapOf hw fun hrun ref href => hfails hrun _ htask trivial ref href
      | failed =>
        unfold paidLnInvoice
        dsimp only
        split
        · next hexpired =>
          exact triple_failSwapOf hw fun hrun ref href => hfails hrun _ htask hexpired ref href
        · exact hkeep (stay_setInvoiceToPay _ _ w')
      | paid =>
        exact hkeep (Keeps.bind (stay_of_same (fun w => same_deleteInvoice env w _ _) w') fun _ =>
          stay_popInvoiceToPay _ w')

end

/-! ## Requests -/

section

variable {running : Bool} {env : Env} {w : World}

theorem World.mem_liveAddresses {k : Hex} {ref : SwapRef} (hk : w.swaps.get? k = some ref)
    (hnot : (w.heap ref).isRedeemed = false) : (w.heap ref).lockupAddress ∈ w.liveAddresses := by
  refine List.mem_map.mpr ⟨(k, ref), List.mem_filter.mpr ⟨Dict.mem_of_get? hk, ?_⟩, rfl⟩
  simp [hnot]

/-- A new object with an address no live swap has. -/
theorem World.sole_alloc {s : World} {swap : SwapData} (hw : Tended running w) (hs : SwapsStay w s)
    (hnew : swap.lockupAddress ∉ w.liveAddresses) : (s.allocSwap swap).Sole s.nextRef := by
  intro k ref hk hnot haddress
  have hget : w.swaps.get? k = some ref := by
    rw [← hs.swaps]
    exact hk
  have hlt : ref < s.nextRef := by
    rw [hs.nextRef]
    exact (hw.table k ref hget).1
  have hold : (s.allocSwap swap).heap ref = w.heap ref := by
    rw [← hs.heap]
    exact Function.update_of_ne (Nat.ne_of_lt hlt) _ _
  have hself : (s.allocSwap swap).heap s.nextRef = swap := Function.update_self _ _ _
  rw [hold] at hnot haddress
  rw [hself] at haddress
  refine absurd ?_ hnew
  rw [← haddress]
  exact World.mem_liveAddresses hget hnot

/-- The end of both creations: the swap is stored, its address imported, and watched. -/
theorem triple_storeAndWatch {s : World} {swap : SwapData} {α : Type} (a : α) (hw : Tended running w)
    (hs : SwapsStay w s) (hnew : swap.lockupAddress ∉ w.liveAddresses) {p : PyM Unit}
    (himport : p = pure () ∨
      (p = throw .BitcoinCoreRPCError ∧ w.swaps.contains (hex swap.paymentHash) = true)) :
    Triple (· = s.allocSwap swap)
      (addOrReindexSwap s.nextRef >>= fun _ => p >>= fun _ => addLnwatcherCallback s.nextRef >>= fun _ =>
        pure a)
      (fun _ => Tended running) fun _ => Tended running := by
  have hself : (s.allocSwap swap).heap s.nextRef = swap := Function.update_self _ _ _
  have htended : Tended running (s.allocSwap swap) := (hw.stay hs).alloc swap
  have hlt : s.nextRef < (s.allocSwap swap).nextRef := Nat.lt_succ_self _
  have hsole := World.sole_alloc hw hs hnew
  have hcontains : (s.allocSwap swap).swaps.contains (hex ((s.allocSwap swap).heap s.nextRef).paymentHash)
      = w.swaps.contains (hex swap.paymentHash) := by
    rw [hself, ← hs.swaps]
    rfl
  unfold addOrReindexSwap
  by_cases hold : w.swaps.contains (hex swap.paymentHash) = true
  · refine Triple.bind (R := fun _ s' => s' = s.allocSwap swap) (Triple.getBind fun s' hs' => ?_)
      fun _ => ?_
    · subst hs'
      dsimp only
      rw [hcontains, if_pos hold]
      exact Triple.pure fun _ hs' => hs'
    · rcases himport with rfl | ⟨rfl, -⟩
      · rw [pure_bind]
        refine Triple.modifyBind (R := Tended running) (fun s' hs' => ?_) (Triple.pure fun _ hs' => hs')
        subst hs'
        exact htended.watch hlt hsole
      · exact Triple.throw fun s' hs' => hs' ▸ htended
  · have hp : p = pure () := himport.resolve_right fun h => hold h.2
    subst hp
    refine Triple.bind (R := fun _ s' => s' = (s.allocSwap swap).setSwap
      (hex ((s.allocSwap swap).heap s.nextRef).paymentHash) s.nextRef) (Triple.getBind fun s' hs' => ?_)
      fun _ => ?_
    · subst hs'
      dsimp only
      rw [hcontains, if_neg hold]
      exact Triple.modify fun _ hs' => by rw [hs']
    · rw [pure_bind]
      refine Triple.modifyBind (R := Tended running) (fun s' hs' => ?_) (Triple.pure fun _ hs' => hs')
      subst hs'
      exact htended.store hlt hsole

variable [Deployment]

theorem triple_createNormalSwap_tended (hw : Tended running w) {lightning_amount_sat : Int}
    {payment_hash their_pubkey : Bytes}
    (hnew : ∀ height ∈ env.localHeight,
      lockupAddressAt env payment_hash their_pubkey height ∉ w.liveAddresses ∧
      (w.swaps.contains (hex payment_hash) = true ∨
        env.importdescriptors (lockupAddressAt env payment_hash their_pubkey height) = true)) :
    Triple (SwapsStay w) (createNormalSwap env lightning_amount_sat payment_hash their_pubkey)
      (fun _ => Tended running) fun _ => Tended running := by
  have hstop : ∀ s, SwapsStay w s → Tended running s := fun s hs => hw.stay hs
  have hkeep : ∀ {α : Type} {p : PyM α}, (∀ w, Keeps (SwapsSame w) p) →
      Triple (SwapsStay w) p (fun _ => SwapsStay w) fun _ => Tended running :=
    fun hp => (stay_of_same hp w).conseq (fun _ hs => hs) (fun _ _ hs => hs) fun _ => hstop
  unfold createNormalSwap
  refine triple_pyAssert hstop fun _ => triple_orRaise hstop fun height hheight =>
    triple_getRecvAmount hstop fun pairs => Triple.pre (R := SwapsStay w) ?_ fun _ hs => hs.1
  refine Triple.bind (R := fun _ => Tended running) ?_ fun _ =>
    Triple.modifyBind (R := Tended running) (fun s hs => ?_) (Triple.pure fun _ hs => hs)
  · unfold addNormalSwap
    refine Triple.bind (hkeep fun w => same_b11invoiceFromHash env w _ _ _ _) fun _ =>
      Triple.bind (hkeep fun w => same_createPaymentInfo env w) fun _ =>
      Triple.bind (hkeep fun w => same_b11invoiceFromHash env w _ _ _ _) fun _ =>
      Triple.bind (hkeep fun w => same_bundlePayments env w _ _) fun _ =>
      triple_orRaise hstop fun _ _ => Triple.getBind fun s hs => ?_
    refine Triple.modifyBind (fun _ hs' => by rw [hs']) (triple_storeAndWatch _ hw hs ?_ ?_)
    · exact (hnew height hheight).1
    · unfold registerAddress
      rcases (hnew height hheight).2 with hcontains | himport
      · split
        · exact .inl rfl
        · exact .inr ⟨rfl, hcontains⟩
      · have hyes : env.importdescriptors (scriptToP2wsh (swapScript (ripemd payment_hash) their_pubkey
            (height + LOCKTIME_DELTA_REFUND) (publicKey env.urandomPrivkey))) = true := himport
        rw [if_pos hyes]
        exact .inl rfl
  · exact Tended.stay (w := s) ⟨rfl, rfl, rfl, rfl, rfl⟩ hs

theorem triple_createReverseSwap_tended (hw : Tended running w) {lightning_amount_sat : Int}
    {their_pubkey : Bytes} (hnew : ∀ height ∈ env.localHeight,
      reverseLockupAddressAt env their_pubkey height ∉ w.liveAddresses) :
    Triple (SwapsStay w) (createReverseSwap env lightning_amount_sat their_pubkey)
      (fun _ => Tended running) fun _ => Tended running := by
  have hstop : ∀ s, SwapsStay w s → Tended running s := fun s hs => hw.stay hs
  have hamount : Keeps (SwapsStay w) (getSendAmount lightning_amount_sat false) := by
    refine Keeps.get fun s => Keeps.ite Keeps.pure ?_
    split
    · exact Keeps.throw
    · exact Keeps.pure
  unfold createReverseSwap addReverseSwap
  refine triple_orRaise hstop fun height hheight => Triple.bind (R := fun _ => SwapsStay w)
    (hamount.conseq (fun _ hs => hs) (fun _ _ hs => hs) fun _ => hstop) fun onchain_amount_sat => ?_
  refine triple_orRaise hstop fun _ _ => ?_
  unfold registerAddress
  refine triple_raiseUnless hstop fun _ => Triple.getBind fun s hs => ?_
  refine Triple.modifyBind (fun _ hs' => by rw [hs'])
    (triple_storeAndWatch s.nextRef hw hs ?_ (.inl rfl))
  exact hnew height hheight

theorem tended_handleRequest (hw : Tended running w) {request : ClientRequest}
    (hcareful : Careful w (.request env request)) :
    Triple (· = w) (handleRequest env request) (fun _ => Tended running) fun _ => Tended running := by
  have hstop : ∀ s, SwapsStay w s → Tended running s := fun s hs => hw.stay hs
  refine Triple.pre (R := SwapsStay w) ?_ fun s hs => hs ▸ SwapsStay.refl w
  cases request with
  | createswap type pairId invoiceAmount preimageHash claimPublicKey =>
    show Triple _ (serverCreateSwap env type pairId invoiceAmount preimageHash claimPublicKey) _ _
    unfold serverCreateSwap
    refine triple_pyAssert hstop fun _ => ?_
    split
    · refine triple_pyAssert hstop fun _ => triple_pyAssert hstop fun _ => ?_
      split
      · exact Triple.pure hstop
      · refine triple_orRaise hstop fun _ _ => ?_
        split
        · exact Triple.pure hstop
        · exact Triple.bind (triple_createNormalSwap_tended hw hcareful) fun _ => Triple.pure fun _ hs => hs
    · exact Triple.pure hstop
  | createnormalswap invoiceAmount refundPublicKey =>
    show Triple _ (serverCreateNormalSwap env invoiceAmount refundPublicKey) _ _
    unfold serverCreateNormalSwap
    refine triple_pyAssert hstop fun _ => ?_
    split
    · exact Triple.pure hstop
    · exact Triple.bind (triple_createReverseSwap_tended hw hcareful) fun _ => Triple.pure fun _ hs => hs
  | addswapinvoice invoice =>
    have hsave : ∀ i, Keeps (SwapsStay w) (saveInvoice env i) := by
      refine fun i => Keeps.bind (Keeps.modify fun s hs => hs.trans ?_) fun _ =>
        stay_of_same (fun w => same_dbWrite env w) w
      unfold World.setInvoice
      split
      · exact SwapsStay.refl s
      · exact ⟨rfl, rfl, rfl, rfl, rfl⟩
    have hkeeps : Keeps (SwapsStay w) (serverAddSwapInvoice env invoice) := by
      refine Keeps.bind (keeps_orRaise _ _) fun i => Keeps.get fun s => ?_
      split
      · exact Keeps.throw
      · exact Keeps.bind (keeps_orRaise _ _) fun _ => Keeps.bind (keeps_pyAssert _) fun _ =>
          Keeps.bind (hsave i) fun _ => Keeps.bind (keeps_orRaise _ _) fun _ =>
          Keeps.bind (keeps_pyAssert _) fun _ => Keeps.bind (keeps_pyAssert _) fun _ =>
          stay_setInvoiceToPay _ _ w
    exact hkeeps.conseq (fun _ hs => hs) (fun _ => hstop) fun _ => hstop
  | unknown method => exact Triple.pure hstop

end

/-! ## The start -/

section

variable {w : World}

/-- The loop of `main_loop` has come past the swaps in `done`. -/
structure Rewatched (w : World) (done : List (Hex × SwapRef)) (s : World) : Prop where
  swaps : s.swaps = w.swaps
  heap : s.heap = w.heap
  nextRef : s.nextRef = w.nextRef
  placed : ∀ address ref, s.lnwatcherCallbacks.get? address = some ref →
    ref < w.nextRef ∧ (w.heap ref).lockupAddress = address
  watched : ∀ item ∈ done, (w.heap item.2).isRedeemed = false →
    s.lnwatcherCallbacks.get? (w.heap item.2).lockupAddress = some item.2

/-- Live swaps with one address are one swap, if the addresses are different. -/
theorem World.live_inj (h : w.liveAddresses.Nodup) {i j : Hex × SwapRef} (hi : i ∈ w.swaps.items)
    (hj : j ∈ w.swaps.items) (hi' : (w.heap i.2).isRedeemed = false)
    (hj' : (w.heap j.2).isRedeemed = false)
    (heq : (w.heap i.2).lockupAddress = (w.heap j.2).lockupAddress) : i = j := by
  have hmem : ∀ x ∈ w.swaps.items, (w.heap x.2).isRedeemed = false →
      x ∈ w.swaps.items.filter fun item => !(w.heap item.2).isRedeemed := by
    intro x hx hnot
    refine List.mem_filter.mpr ⟨hx, ?_⟩
    simp [hnot]
  exact List.inj_on_of_nodup_map h (hmem i hi hi') (hmem j hj hj') heq

theorem Rewatched.next (h : w.liveAddresses.Nodup) {running : Bool} (hw : Tended running w)
    {done : List (Hex × SwapRef)} {item : Hex × SwapRef} {s : World}
    (hdone : ∀ i ∈ done, i ∈ w.swaps.items) (hitem : item ∈ w.swaps.items)
    (hlive : (w.heap item.2).isRedeemed = false) (hs : Rewatched w done s) :
    Rewatched w (done ++ [item]) (s.watch item.2) := by
  refine ⟨hs.swaps, hs.heap, hs.nextRef, fun address ref hget => ?_, fun i hi hnot => ?_⟩
  · dsimp only [World.watch] at hget
    rw [hs.heap, Dict.get?_set] at hget
    split at hget
    · next heq =>
      cases hget
      exact ⟨(hw.table item.1 item.2 (Dict.get?_of_mem hitem)).1, heq.symm⟩
    · exact hs.placed address ref hget
  · dsimp only [World.watch]
    rw [hs.heap, Dict.get?_set]
    rcases List.mem_append.mp hi with hold | hnew
    · split
      · next heq => rw [World.live_inj h (hdone i hold) hitem hnot hlive heq]
      · exact hs.watched i hold hnot
    · rw [List.mem_singleton.mp hnew, if_pos rfl]

theorem triple_rewatch (h : w.liveAddresses.Nodup) {running : Bool} (hw : Tended running w)
    (done rest : List (Hex × SwapRef)) (hmem : ∀ i ∈ done ++ rest, i ∈ w.swaps.items) :
    Triple (Rewatched w done)
      (rest.forM fun item => if (w.heap item.2).isRedeemed then pure () else addLnwatcherCallback item.2)
      (fun _ => Rewatched w (done ++ rest)) fun (_ : PyErr) _ => False := by
  induction rest generalizing done with
  | nil =>
    rw [List.append_nil]
    exact Triple.pure fun _ hs => hs
  | cons item rest ih =>
    show Triple _ (_ >>= fun _ => rest.forM _) _ _
    refine Triple.bind (R := fun _ => Rewatched w (done ++ [item])) ?_ fun _ => ?_
    · have hitem : item ∈ w.swaps.items := hmem item (by simp)
      dsimp only
      split
      · next hredeemed =>
        refine Triple.pure fun s hs => ⟨hs.swaps, hs.heap, hs.nextRef, hs.placed, fun i hi hnot => ?_⟩
        rcases List.mem_append.mp hi with hold | hnew
        · exact hs.watched i hold hnot
        · rw [List.mem_singleton.mp hnew, hredeemed] at hnot
          cases hnot
      · next hlive =>
        refine Triple.modify fun s hs => ?_
        exact Rewatched.next h hw (fun i hi => hmem i (List.mem_append_left _ hi)) hitem
          (Bool.eq_false_iff.mpr hlive) hs
    · have hsplit : done ++ item :: rest = done ++ [item] ++ rest := by simp
      rw [hsplit] at hmem ⊢
      exact ih (done ++ [item]) hmem

theorem triple_mainLoop (h : w.liveAddresses.Nodup) {running : Bool} (hw : Tended running w) :
    Triple (· = w) mainLoop (fun _ => Tended true) fun _ _ => False := by
  unfold mainLoop
  refine Triple.getBind fun s hs => ?_
  subst hs
  have hstart : ∀ t, t = s → Rewatched s [] t := by
    intro t ht
    subst ht
    exact ⟨rfl, rfl, rfl, hw.placed, fun _ hi => nomatch hi⟩
  refine Triple.bind ((triple_rewatch h hw [] s.swaps.items fun _ hi => hi).pre hstart) fun _ =>
    Triple.modify fun t ht => ?_
  refine ⟨rfl, fun k ref hk => ?_, fun address ref hget => ?_, fun _ k ref hk hnot => ?_⟩
  · dsimp only at hk ⊢
    rw [ht.swaps] at hk
    rw [ht.heap, ht.nextRef]
    exact hw.table k ref hk
  · dsimp only at hget ⊢
    rw [ht.heap, ht.nextRef]
    exact ht.placed address ref hget
  · dsimp only at hk hnot ⊢
    rw [ht.swaps] at hk
    rw [ht.heap] at hnot ⊢
    exact ht.watched (k, ref) (Dict.mem_of_get? hk) hnot

end

/-! ## A step and a run -/

section

variable {running : Bool} {w : World}

theorem tended_initSwapManager : Keeps (Tended running) initSwapManager := by
  refine Keeps.get fun w => Keeps.forM fun item _ => Keeps.get fun w => Keeps.ite (Keeps.ite ?_ ?_)
    Keeps.pure
  · exact Keeps.modify fun s hs => Tended.stay (w := s) ⟨rfl, rfl, rfl, rfl, rfl⟩ hs
  · exact Keeps.modify fun s hs => hs.popSwap _

theorem Tended.here (h : Tended running w) : Tended w.running w := h.stage.symm ▸ h

theorem World.tended_restart (env : Env) (view : View) (hw : Tended w.running w)
    (hfiled : SwapsThroughout (fun _ => True) (w.restart env view)) :
    Tended (w.restart env view).running (w.restart env view) := by
  unfold World.restart at hfiled ⊢
  split
  · exact hw
  · next d hload =>
    rw [hload] at hfiled
    refine ⟨rfl, fun k ref hk => ?_, fun _ _ hget => (nomatch hget), nofun⟩
    obtain ⟨hlt, hkey⟩ := hfiled.table k ref hk
    exact ⟨hlt, hkey.symm⟩

variable [Deployment] {a : Action}

theorem tended_serverUpdatePairs (env : Env) : Keeps (Tended running) (serverUpdatePairs env) :=
  Keeps.modify fun s hs => Tended.stay (w := s) ⟨rfl, rfl, rfl, rfl, rfl⟩ hs

/-- **The step lemma.** -/
theorem step_tended (hw : Tended w.running w) (ha : Careful w a)
    (hfiled : SwapsThroughout (fun _ => True) (step a w)) : Tended (step a w).running (step a w) := by
  have hsame : ∀ {p : PyM Unit}, (∀ w, Keeps (SwapsSame w) p) → Keeps (Tended w.running) p :=
    fun hp => Tended.of_stay (stay_of_same hp)
  cases a with
  | request env request =>
    refine (Triple.final (P := (· = w)) (R := Tended w.running) ?_ rfl).here
    refine Triple.getBind fun s hs => ?_
    subst hs
    split
    · exact tended_handleRequest hw ha
    · exact Triple.pure fun _ hs => hs ▸ hw
  | htlc env forward payment_secret request =>
    exact ((hsame fun w => same_pluginHtlcAcceptedHook env w _ _ _).final hw).here
  | expiry env => exact ((hsame fun w => same_monitorExpiries env w).final hw).here
  | callbacks env => exact ((tended_callbackHandler ha).final hw).here
  | claim env address =>
    refine (Triple.final (P := (· = w)) (R := Tended w.running) ?_ rfl).here
    refine Triple.getBind fun s hs => ?_
    subst hs
    split
    · next ref href =>
      refine Attended.triple_claimSwap.pre fun _ heq => ?_
      subst heq
      have hplaced := (hw.placed address ref href).2
      exact ⟨⟨hw, by rw [hplaced]; exact href⟩, ha ref href⟩
    · exact Triple.pure fun _ hs => hs ▸ hw
  | updatePairs env => exact ((tended_serverUpdatePairs env).final hw).here
  | rehash k order => exact ((hsame fun w => same_mutHoldInvoice w _ _ _).final hw).here
  | payPending env =>
    have hkeeps : Keeps (Tended w.running) (payPendingLnInvoices env) :=
      Keeps.get fun _ => Keeps.modify fun s hs => Tended.stay (w := s) ⟨rfl, rfl, rfl, rfl, rfl⟩ hs
    exact (hkeeps.final hw).here
  | payTask env n result => exact ((triple_payTaskStep hw ha).final rfl).here
  | reload env => exact World.tended_restart env _ hw hfiled
  | crash env n =>
    have hstep : step (.crash env n) w = w.crash env n := rfl
    rw [hstep] at hfiled ⊢
    unfold World.crash at hfiled ⊢
    split
    · exact hw
    · next view hview =>
      rw [hview] at hfiled
      exact World.tended_restart env view hw hfiled
  | initSwapManager =>
    have hkeeps : Keeps (Tended w.running) (programOf .initSwapManager) :=
      keeps_atStage (Keeps.bind tended_initSwapManager fun _ => Keeps.modify fun s hs =>
        Tended.stay (w := s) ⟨rfl, rfl, rfl, rfl, rfl⟩ hs)
    exact (hkeeps.final hw).here
  | mainLoop =>
    have htriple : Triple (· = w) (programOf .mainLoop) (fun _ s => Tended s.running s)
        fun _ s => Tended s.running s := by
      refine Triple.getBind fun s hs => ?_
      subst hs
      split
      · exact (triple_mainLoop ha hw).conseq (fun _ hs => hs) (fun _ _ hs => hs.here) fun _ _ hs => hs.elim
      · exact Triple.pure fun _ hs => hs ▸ hw
    exact htriple.final rfl

/-- **Every live swap is watched**, in every state of a careful run in which `main_loop` has run. -/
theorem every_live_swap_watched (h : Reachable Careful w) (hrunning : w.running = true) :
    w.LiveWatched := by
  have htended : SwapsThroughout (fun _ => True) w ∧ Tended w.running w := by
    refine Run.invariant (I := fun w => SwapsThroughout (fun _ => True) w ∧ Tended w.running w)
      (fun w a ha hw => ?_) h ⟨SwapsThroughout.start, ?_⟩
    · have hsurvives : Survives a w fun w => True ∧ SwapsThroughout (fun _ => True) w :=
        Survives.trivial.swaps (fun _ _ => True.intro) (fun _ _ => True.intro)
          (fun _ _ _ _ _ _ _ _ => True.intro) fun _ _ _ => True.intro
      have hfiled := (step_invariant hsurvives ⟨True.intro, hw.1⟩).2
      exact ⟨hfiled, step_tended hw.2 ha hfiled⟩
    · exact ⟨rfl, fun _ _ hk => (nomatch hk), fun _ _ hk => (nomatch hk), nofun⟩
  exact htended.2.live hrunning

end

/-! ## A swap that is watched, and two that are not -/

instance (w : World) : Decidable w.LiveWatched :=
  decidable_of_iff (∀ item ∈ w.swaps.items, (w.heap item.2).isRedeemed = false →
    w.lnwatcherCallbacks.get? (w.heap item.2).lockupAddress = some item.2)
    ⟨fun h k ref hk => h (k, ref) (Dict.mem_of_get? hk), fun h item hitem => h item.1 item.2
      (Dict.get?_of_mem hitem)⟩

instance (w : World) (ref : SwapRef) : Decidable (w.LeavesNone ref) :=
  inferInstanceAs (Decidable (∀ item ∈ w.swaps.items, _))

instance (w : World) (env : Env) (ref : SwapRef) : Decidable (w.Expires env ref) :=
  inferInstanceAs (Decidable (_ ∧ _ ∧ _))

instance (w : World) (env : Env) (result : PayResult) : ∀ task, Decidable (PayTask.Fails w env result task)
  | .spawned key => inferInstanceAs (Decidable (w.invoices.get? key = none))
  | .paying _ invoice =>
    match result with
    | .raised => .isTrue trivial
    | .failed => inferInstanceAs (Decidable (invoice.hasExpired env = true))
    | .paid => .isFalse id

instance [Deployment] (w : World) : ∀ a, Decidable (Careful w a)
  | .request env (.createswap _ _ _ preimageHash claimPublicKey) =>
    inferInstanceAs (Decidable (∀ height ∈ env.localHeight,
      lockupAddressAt env preimageHash claimPublicKey height ∉ w.liveAddresses ∧ (_ ∨ _)))
  | .request env (.createnormalswap _ refundPublicKey) =>
    inferInstanceAs (Decidable (∀ height ∈ env.localHeight,
      reverseLockupAddressAt env refundPublicKey height ∉ w.liveAddresses))
  | .callbacks env => inferInstanceAs (Decidable (w.running = true → env.sendpsbt = true))
  | .claim _ address =>
    inferInstanceAs (Decidable (∀ ref ∈ w.lnwatcherCallbacks.get? address, _ → _))
  | .payTask env n result =>
    inferInstanceAs (Decidable (w.running = true → ∀ task ∈ w.payTasks[n]?, task.Fails w env result →
      ∀ ref ∈ w.swaps.get? task.key, w.LeavesNone ref))
  | .mainLoop => inferInstanceAs (Decidable w.liveAddresses.Nodup)
  | .request _ (.addswapinvoice _) | .request _ (.unknown _) | .htlc _ _ _ _ | .expiry _ | .updatePairs _
  | .rehash _ _ | .payPending _ | .reload _ | .crash _ _ | .initSwapManager => .isTrue trivial

section Sample

open Sample

attribute [local instance] Sample.deployment

/-- A swap is created, paid and funded. -/
theorem every_live_swap_watched_funded : (runOf fundedRun World.start).LiveWatched :=
  every_live_swap_watched (Run.of_allows .refl (by decide +kernel)) (by decide +kernel)

/-- Bitcoin Core does not import the address of a new swap. -/
def unimportedRun : List Action :=
  boot ++ [.request { Sample.env with importdescriptors := fun _ => false } (createswap 50000)]

/-- The funding transaction of a swap is refused. -/
def refusedRun : List Action :=
  boot ++ [.request Sample.env (createswap 50000), deliver 1 paymentHash 49728000,
    deliver 2 prepayHash 272000, .callbacks { Sample.env with sendpsbt := false }]

/-- Both swaps are in the table and not redeemed, and nobody watches them. -/
theorem live_swap_unwatched :
    ((runOf unimportedRun World.start).running = true ∧ ¬ (runOf unimportedRun World.start).LiveWatched) ∧
      ((runOf refusedRun World.start).running = true ∧ ¬ (runOf refusedRun World.start).LiveWatched) := by
  decide +kernel

end Sample

end SubswapProvider
