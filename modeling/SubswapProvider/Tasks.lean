import SubswapProvider.Durable

/-!
# What leaves the payment tasks and their locks alone

Tasks that pay an invoice are spawned by `pay_pending_ln_invoices` and go on by themselves. Every other
step of the plugin leaves them as they are, except that a restart ends them. Nearly every other step leaves
their locks, too: `_fail_swap` and `delete_finished_reverse_swap` take keys away, and `_claim_swap` would
only add one for a reverse swap whose preimage the plugin does not know (`tasks_claimSwap`). What is left
is `addswapinvoice` (`tasks_serverAddSwapInvoice`).
-/

namespace SubswapProvider

open Deployment Effect

/-- `invoices_to_pay.get(key)`. -/
def World.notBefore (w : World) (key : Hex) : Option Nat := (w.invoicesToPay.getD ∅).get? key

/-- The time of a key is the one that `pay_pending_ln_invoice` locks it with, or the key is gone. -/
def World.Locked (w : World) (key : Hex) : Prop :=
  ∀ not_before ∈ w.notBefore key, not_before = 1000000000000

/-- The tasks that wait are `tasks`, and the keys in `locked` have their lock. -/
structure TasksAre (tasks : List PayTask) (locked : Hex → Prop) (w : World) : Prop where
  tasks : w.payTasks = tasks
  locks : ∀ key, locked key → w.Locked key

/-- The payment tasks and the times of their keys. -/
def World.payments (w : World) : List PayTask × Option (Dict Hex Nat) := (w.payTasks, w.invoicesToPay)

/-- The tasks and their keys are as they were. -/
theorem TasksAre.congr {tasks : List PayTask} {locked : Hex → Prop} {w w' : World}
    (h : w'.payments = w.payments) (hw : TasksAre tasks locked w) : TasksAre tasks locked w' := by
  obtain ⟨htasks, htoPay⟩ := Prod.mk.inj h
  refine ⟨htasks.trans hw.tasks, fun key hkey not_before hget => hw.locks key hkey not_before ?_⟩
  unfold World.notBefore at hget ⊢
  rwa [htoPay] at hget

namespace World

variable (w : World)

@[simp] theorem payments_setPreimage (k : Hex) (v : Bytes) :
    (w.setPreimage k v).payments = w.payments := by
  unfold setPreimage
  split <;> rfl

@[simp] theorem payments_popPreimage (k : Hex) : (w.popPreimage k).payments = w.payments := by
  unfold popPreimage
  split <;> rfl

@[simp] theorem payments_setInvoice (k : Hex) (v : Invoice) :
    (w.setInvoice k v).payments = w.payments := by
  unfold setInvoice
  split <;> rfl

@[simp] theorem payments_popInvoice (k : Hex) : (w.popInvoice k).payments = w.payments := by
  unfold popInvoice
  split <;> rfl

@[simp] theorem payments_setHoldInvoice (invoice : HoldInvoice) :
    (w.setHoldInvoice invoice).payments = w.payments := by
  dsimp only [setHoldInvoice]
  split <;> rfl

@[simp] theorem payments_popHoldInvoice (k : Hex) : (w.popHoldInvoice k).payments = w.payments := by
  unfold popHoldInvoice
  split <;> rfl

@[simp] theorem payments_popSwap (k : Hex) : (w.popSwap k).payments = w.payments := by
  unfold popSwap
  split <;> rfl

@[simp] theorem payments_assign (ref : SwapRef) (f : SwapData → SwapData) :
    (w.assign ref f).payments = w.payments := by
  dsimp only [assign]
  split <;> rfl

end World

section

variable {tasks : List PayTask} {locked : Hex → Prop} (env : Env)

/-- A change of something else. -/
theorem tasks_modify {f : World → World} (hf : ∀ w, (f w).payments = w.payments) :
    Keeps (TasksAre tasks locked) (modify f : PyM PUnit) :=
  Keeps.modify fun w hw => hw.congr (hf w)

/-! ## The store and the answers -/

theorem tasks_dbWrite : Keeps (TasksAre tasks locked) (dbWrite env) := by
  unfold dbWrite
  refine Keeps.get fun _ => Keeps.bind (tasks_modify fun _ => rfl) fun _ => ?_
  exact Keeps.ite (Keeps.ite (Keeps.ite Keeps.throw (tasks_modify fun _ => rfl)) Keeps.pure)
    (Keeps.ite (Keeps.ite Keeps.throw (tasks_modify fun _ => rfl)) Keeps.pure)

theorem tasks_writeIf (write_db : Bool) :
    Keeps (TasksAre tasks locked) (if write_db then dbWrite env else pure ()) :=
  Keeps.ite (tasks_dbWrite env) Keeps.pure

theorem tasks_emit (e : Event) : Keeps (TasksAre tasks locked) (emit e) := tasks_modify fun _ => rfl

theorem tasks_setResult (request : Request) (res : HookResult) :
    Keeps (TasksAre tasks locked) (setResult request res) :=
  Keeps.get fun _ => Keeps.ite (Keeps.bind (tasks_emit _) fun _ => Keeps.throw) (tasks_emit _)

/-! ## Hold invoices -/

theorem tasks_mut (k : Hex) (f : HoldInvoice → HoldInvoice)
    (hf : ∀ inv, (f inv).paymentHash = inv.paymentHash) :
    Keeps (TasksAre tasks locked) (modify (World.mutHoldInvoice k f hf) : PyM PUnit) :=
  tasks_modify fun _ => rfl

theorem tasks_resolveHtlc (k : Hex) (htlc : Htlc) (st : HtlcState) (res : HookResult) :
    Keeps (TasksAre tasks locked) (resolveHtlc k htlc st res) := by
  unfold resolveHtlc
  refine Keeps.ite ?_ Keeps.throw
  split
  · exact Keeps.throw
  · exact Keeps.bind (tasks_mut _ _ _) fun _ => tasks_setResult _ _

theorem tasks_forAccepted (invoice : HoldInvoice) {f : Htlc → PyM Unit}
    (hf : ∀ h, Keeps (TasksAre tasks locked) (f h)) : Keeps (TasksAre tasks locked) (forAccepted invoice f) :=
  Keeps.forM fun h _ => Keeps.ite (hf h) Keeps.pure

theorem tasks_cancelAllHtlcs (invoice : HoldInvoice) :
    Keeps (TasksAre tasks locked) (cancelAllHtlcs invoice) :=
  Keeps.bind (tasks_forAccepted invoice fun h => tasks_resolveHtlc _ h _ _) fun _ => tasks_mut _ _ _

theorem tasks_settleInvoice [Deployment] (invoice : HoldInvoice) (preimage : Option Bytes) :
    Keeps (TasksAre tasks locked) (settleInvoice invoice preimage) := by
  unfold settleInvoice
  split
  · exact Keeps.throw
  · exact Keeps.bind (keeps_pyAssert _) fun _ =>
      Keeps.bind (Keeps.ite Keeps.pure Keeps.throw) fun _ =>
      Keeps.bind (tasks_forAccepted invoice fun h => tasks_resolveHtlc _ h _ _) fun _ =>
      Keeps.bind (tasks_mut _ _ _) fun _ => tasks_emit _

theorem tasks_saveHoldInvoice (invoice : HoldInvoice) :
    Keeps (TasksAre tasks locked) (saveHoldInvoice env invoice) :=
  Keeps.bind (tasks_modify fun w => w.payments_setHoldInvoice invoice) fun _ => tasks_dbWrite env

theorem tasks_updateInvoice (payment_hash : Bytes) :
    Keeps (TasksAre tasks locked) (updateInvoice env payment_hash) := by
  unfold updateInvoice
  refine Keeps.get fun w => ?_
  split
  · exact Keeps.throw
  · exact Keeps.bind (tasks_modify fun w => w.payments_popHoldInvoice _) fun _ =>
      tasks_saveHoldInvoice env _

theorem tasks_deleteHoldInvoice (k : Hex) (write_db : Bool) :
    Keeps (TasksAre tasks locked) (deleteHoldInvoice env k write_db) :=
  Keeps.bind (tasks_modify fun _ => rfl) fun _ => Keeps.get fun _ =>
    Keeps.ite (Keeps.bind (tasks_modify fun w => w.payments_popHoldInvoice _) fun _ =>
      tasks_writeIf env write_db) Keeps.pure

theorem tasks_handleHtlc (target_invoice : HoldInvoice) (payment_secret : Option Bytes)
    (request : Request) :
    Keeps (TasksAre tasks locked) (handleHtlc env target_invoice payment_secret request) := by
  dsimp only [handleHtlc]
  split
  · exact Keeps.bind (tasks_mut _ _ _) fun _ => Keeps.pure
  · refine Keeps.bind (tasks_mut _ _ _) fun _ => ?_
    split
    · exact Keeps.throw
    · exact Keeps.bind (tasks_resolveHtlc _ _ _ _) fun _ => Keeps.pure
    · exact Keeps.ite (Keeps.bind (tasks_mut _ _ _) fun _ => Keeps.bind (tasks_emit _) fun _ =>
        Keeps.pure) Keeps.pure

theorem tasks_pluginHtlcAcceptedHook (forward : Bool) (payment_secret : Option Bytes)
    (request : Request) :
    Keeps (TasksAre tasks locked) (pluginHtlcAcceptedHook env forward payment_secret request) := by
  unfold pluginHtlcAcceptedHook
  refine Keeps.ite (tasks_setResult _ _) (Keeps.get fun w => ?_)
  split
  · exact tasks_setResult _ _
  · exact Keeps.tryCatch (Keeps.bind (tasks_handleHtlc env _ _ _) fun _ =>
      Keeps.ite (tasks_updateInvoice env _) Keeps.pure) fun _ => tasks_setResult _ _

theorem tasks_monitorExpiries : Keeps (TasksAre tasks locked) (monitorExpiries env) := by
  refine Keeps.get fun _ => Keeps.tryCatch (Keeps.forM fun _ _ => Keeps.get fun _ =>
    Keeps.bind ?_ fun _ => Keeps.ite Keeps.throw Keeps.pure) fun _ => Keeps.pure
  unfold checkInvoiceExpiry
  split
  · exact Keeps.pure
  · exact Keeps.ite (Keeps.bind (tasks_cancelAllHtlcs _) fun _ => Keeps.get fun _ =>
      Keeps.bind (Keeps.ite Keeps.throw Keeps.pure) fun _ =>
      Keeps.bind (tasks_deleteHoldInvoice env _ _) fun _ => Keeps.pure) Keeps.pure

/-! ## The other tables -/

theorem tasks_deleteInvoice (k : Hex) (write_db : Bool) :
    Keeps (TasksAre tasks locked) (deleteInvoice env k write_db) :=
  Keeps.get fun _ => Keeps.ite (Keeps.bind (tasks_modify fun w => w.payments_popInvoice k) fun _ =>
    tasks_writeIf env write_db) Keeps.pure

theorem tasks_saveInvoice (invoice : Invoice) : Keeps (TasksAre tasks locked) (saveInvoice env invoice) :=
  Keeps.bind (tasks_modify fun w => w.payments_setInvoice _ _) fun _ => tasks_dbWrite env

theorem tasks_deletePaymentInfo (payment_hash : Option Bytes) (write_db : Bool) :
    Keeps (TasksAre tasks locked) (deletePaymentInfo env payment_hash write_db) := by
  refine Keeps.get fun w => ?_
  cases payment_hash with
  | none => exact Keeps.pure
  | some h =>
    exact Keeps.ite (Keeps.bind (tasks_modify fun w => w.payments_popPreimage _) fun _ =>
      tasks_writeIf env write_db) Keeps.pure

theorem tasks_createPaymentInfo [Deployment] : Keeps (TasksAre tasks locked) (createPaymentInfo env) := by
  unfold createPaymentInfo savePreimage
  exact Keeps.bind (Keeps.ite Keeps.throw (Keeps.bind
    (tasks_modify fun w => w.payments_setPreimage _ _) fun _ => tasks_dbWrite env))
    fun _ => Keeps.pure

theorem tasks_popInvoiceToPay (k : Hex) : Keeps (TasksAre tasks locked) (popInvoiceToPay k) := by
  refine Keeps.getBind fun w hw => ?_
  split
  · exact Triple.throw fun s hs => hs ▸ hw
  · next toPay htoPay =>
    refine Triple.modify fun s hs => ?_
    subst hs
    refine ⟨hw.tasks, fun key hkey not_before hget => hw.locks key hkey not_before ?_⟩
    -- what is left in the table was there
    unfold World.notBefore
    rw [htoPay]
    exact (Dict.get?_of_pop hget).2

/-- A time that is set is no lock, so the key must not be one that is to have its lock. -/
theorem tasks_setInvoiceToPay {k : Hex} (hk : ¬ locked k) (not_before : Nat) :
    Keeps (TasksAre tasks locked) (setInvoiceToPay k not_before) := by
  refine Keeps.getBind fun w hw => ?_
  split
  · exact Triple.throw fun s hs => hs ▸ hw
  · next toPay htoPay =>
    refine Triple.modify fun s hs => ?_
    subst hs
    refine ⟨hw.tasks, fun key hkey t hget => hw.locks key hkey t ?_⟩
    have hne : key ≠ k := fun heq => hk (heq ▸ hkey)
    unfold World.notBefore
    rw [htoPay]
    exact (Dict.get?_set_ne toPay not_before hne).symm.trans hget

theorem tasks_removeCallback (address : Address) :
    Keeps (TasksAre tasks locked) (removeCallback address) := tasks_modify fun _ => rfl

theorem tasks_popSwapOrRaise (k : Hex) : Keeps (TasksAre tasks locked) (popSwapOrRaise k) :=
  Keeps.get fun _ => Keeps.ite (tasks_modify fun w => w.payments_popSwap k) Keeps.throw

theorem tasks_addOrReindexSwap (ref : SwapRef) : Keeps (TasksAre tasks locked) (addOrReindexSwap ref) :=
  Keeps.get fun _ => Keeps.ite Keeps.pure (tasks_modify fun _ => rfl)

theorem tasks_assign (ref : SwapRef) (f : SwapData → SwapData) :
    Keeps (TasksAre tasks locked) (modify (World.assign ref f) : PyM PUnit) :=
  tasks_modify fun w => w.payments_assign ref f

/-! ## The ends of a swap -/

theorem tasks_failSwap (ref : SwapRef) : Keeps (TasksAre tasks locked) (failSwap env ref) := by
  unfold failSwap
  refine Keeps.get fun w => Keeps.bind (Keeps.ite ?_ ?_) fun _ =>
    Keeps.bind (tasks_removeCallback _) fun _ =>
    Keeps.bind (Keeps.ite (tasks_popSwapOrRaise _) Keeps.pure) fun _ => tasks_dbWrite env
  · refine Keeps.bind (tasks_modify fun _ => rfl) fun _ => Keeps.forM fun payment_hash _ =>
      Keeps.get fun w => ?_
    split
    · exact tasks_deletePaymentInfo env _ _
    · exact Keeps.bind (tasks_cancelAllHtlcs _) fun _ =>
        Keeps.bind (tasks_deleteHoldInvoice env _ _) fun _ => tasks_deletePaymentInfo env _ _
  · exact Keeps.bind (tasks_deleteInvoice env _ _) fun _ => tasks_popInvoiceToPay _

theorem tasks_failSwapOf (key : Hex) : Keeps (TasksAre tasks locked) (failSwapOf env key) := by
  refine Keeps.get fun w => ?_
  split
  · exact Keeps.pure
  · exact tasks_failSwap env _

theorem tasks_finishNormalSwap [Deployment] (ref : SwapRef) :
    Keeps (TasksAre tasks locked) (finishNormalSwap env ref) := by
  unfold finishNormalSwap
  refine Keeps.get fun w => Keeps.bind (keeps_pyAssert _) fun _ => ?_
  split
  · exact Keeps.throw
  · refine Keeps.bind (tasks_settleInvoice _ _) fun _ =>
      Keeps.bind (tasks_deleteHoldInvoice env _ _) fun _ => Keeps.bind ?_ fun _ =>
      Keeps.bind (tasks_deletePaymentInfo env _ _) fun _ => Keeps.bind (tasks_removeCallback _) fun _ =>
      Keeps.bind (tasks_popSwapOrRaise _) fun _ => tasks_dbWrite env
    split
    · exact tasks_deleteHoldInvoice env _ _
    · exact Keeps.pure

theorem tasks_deleteFinishedReverseSwap (ref : SwapRef) :
    Keeps (TasksAre tasks locked) (deleteFinishedReverseSwap env ref) :=
  Keeps.get fun _ => Keeps.bind (tasks_deleteInvoice env _ _) fun _ =>
    Keeps.bind (tasks_removeCallback _) fun _ => Keeps.bind (tasks_popInvoiceToPay _) fun _ =>
    Keeps.bind (Keeps.ite (tasks_modify fun w => w.payments_popSwap _) Keeps.pure) fun _ =>
    tasks_dbWrite env

/-! ## The callback pass -/

theorem tasks_holdInvoiceCallback (payment_hash : Bytes) :
    Keeps (TasksAre tasks locked) (holdInvoiceCallback env payment_hash) := by
  unfold holdInvoiceCallback
  refine Keeps.get fun w => ?_
  split
  · exact Keeps.pure
  · refine Keeps.ite (Keeps.bind ?_ fun tx => Keeps.tryCatch ?_ fun _ => tasks_failSwap env _)
      Keeps.pure
    · unfold createFundingTx
      exact Keeps.get fun _ => Keeps.bind (tasks_emit _) fun _ => Keeps.bind (keeps_orRaise _ _)
        fun _ => keeps_createTransaction _ _
    · unfold broadcastFundingTx
      exact Keeps.bind (tasks_assign _ _) fun _ => Keeps.get fun _ => Keeps.bind (tasks_emit _)
        fun _ => Keeps.ite Keeps.pure Keeps.throw

variable [Deployment]

theorem tasks_callbackHandler : Keeps (TasksAre tasks locked) (callbackHandler env (callOf env)) := by
  have hinvoke : ∀ (callback : HoldInvoiceCallback) invoice,
      Keeps (TasksAre tasks locked) (invokeCallback (callOf env callback) invoice) := by
    intro callback invoice
    cases callback
    exact Keeps.get fun _ => Keeps.bind (tasks_emit _) fun _ =>
      Keeps.bind (tasks_holdInvoiceCallback env _) fun _ => tasks_modify fun _ => rfl
  refine Keeps.get fun _ => Keeps.tryCatch (Keeps.forM fun item _ => ?_) fun _ => Keeps.pure
  unfold handleCallback
  refine Keeps.get fun w => ?_
  split
  · exact Keeps.ite (tasks_modify fun _ => rfl) Keeps.throw
  · refine Keeps.ite ?_ Keeps.pure
    split
    · exact hinvoke _ _
    · split
      · exact Keeps.throw
      · exact Keeps.ite (Keeps.bind (keeps_getPreimage _) fun _ =>
          Keeps.bind (tasks_settleInvoice _ _) fun _ => Keeps.bind (tasks_updateInvoice env _) fun _ =>
          hinvoke _ _) Keeps.pure

/-! ## The chain monitor -/

/-- A swap that knows its preimage, or is a normal one, goes on to know it. -/
def Secretive (ref : SwapRef) (tasks : List PayTask) (locked : Hex → Prop) (w : World) : Prop :=
  TasksAre tasks locked w ∧ (w.heap ref).Revealable

omit [Deployment] in
theorem secretive_assign (ref : SwapRef) {f : SwapData → SwapData}
    (hf : ∀ swap, (f swap).isReverse = swap.isReverse ∧ (f swap).preimage = swap.preimage) :
    Keeps (Secretive ref tasks locked) (modify (World.assign ref f) : PyM PUnit) := by
  refine Keeps.modify fun w hw => ⟨hw.1.congr (w.payments_assign ref f), ?_⟩
  rw [World.assign_heap_self]
  obtain ⟨hreverse, hpreimage⟩ := hf (w.heap ref)
  unfold SwapData.Revealable
  rw [hreverse, hpreimage]
  exact hw.2

omit [Deployment] in
theorem secretive_addOrReindexSwap (ref : SwapRef) :
    Keeps (Secretive ref tasks locked) (addOrReindexSwap ref) := by
  refine Keeps.get fun w => Keeps.ite Keeps.pure (Keeps.modify fun s hs => ?_)
  refine ⟨TasksAre.congr (by rfl) hs.1, ?_⟩
  show (Function.update s.heap ref { s.heap ref with db := true } ref).Revealable
  rw [Function.update_self]
  exact hs.2

theorem tasks_inspectSpend (ref : SwapRef) (txin : PartialTxInput) (spent_height : Nat) :
    Keeps (TasksAre tasks locked) (inspectSpend env ref txin spent_height) := by
  unfold inspectSpend
  refine Keeps.get fun _ => Keeps.bind (keeps_orRaise _ _) fun _ =>
    Keeps.bind (keeps_orRaise _ _) fun _ => Keeps.bind (keeps_orRaise _ _) fun _ =>
    Keeps.bind (keeps_liftExcept _) fun extracted => ?_
  unfold handleExtracted
  split
  · exact Keeps.bind (tasks_assign _ _) fun _ => Keeps.bind (tasks_finishNormalSwap env _) fun _ =>
      Keeps.pure
  · exact Keeps.ite (Keeps.bind (tasks_assign _ _) fun _ => Keeps.bind (tasks_failSwap env _)
      fun _ => Keeps.pure) (Keeps.ite (Keeps.bind (keeps_orRaise _ _) fun _ => Keeps.pure)
      Keeps.pure)

theorem tasks_claimNormal (ref : SwapRef) (txin : PartialTxInput) (remaining_time conf : Int) :
    Keeps (TasksAre tasks locked) (claimNormal env ref txin remaining_time conf) := by
  unfold claimNormal
  refine Keeps.get fun w => Keeps.bind ?_ fun outcome =>
    keeps_takeRefund env txin (fun _ => tasks_assign _ _) (fun _ => tasks_emit _) _ _ outcome
  split
  · exact tasks_inspectSpend env _ _ _
  · exact Keeps.pure

/-- With the preimage at hand the invoice is not paid. -/
theorem tasks_claimReverse (ref : SwapRef) (txin : PartialTxInput)
    (remaining_time conf : Int) {w : World} (hw : TasksAre tasks locked w)
    (hknown : (w.heap ref).preimage.isSome = true) :
    Triple (· = w) (claimReverse env ref txin remaining_time conf)
      (fun _ => TasksAre tasks locked) (fun _ => TasksAre tasks locked) := by
  obtain ⟨preimage, hpreimage⟩ := Option.isSome_iff_exists.mp hknown
  unfold claimReverse
  refine Triple.getBind fun s hs => ?_
  rw [hs, hpreimage, pure_bind]
  refine Triple.getBind fun s' hs' => ?_
  rw [hs', hpreimage, Option.isNone_some, if_neg Bool.false_ne_true]
  have hrest : Keeps (TasksAre tasks locked)
      (if txin.spentHeight.isSome then pure () else broadcastClaim env ref txin conf) :=
    Keeps.ite Keeps.pure
      (keeps_broadcastClaim env txin (fun _ => tasks_assign _ _) (fun _ => tasks_emit _) _)
  exact Triple.pre hrest fun _ hs => hs ▸ hw

theorem tasks_claimLocated (ref : SwapRef) (current_height : Nat) (txin : PartialTxInput)
    (conf : Int) : Triple (Secretive ref tasks locked) (claimLocated env ref current_height txin conf)
      (fun _ => TasksAre tasks locked) (fun _ => TasksAre tasks locked) := by
  unfold claimLocated
  refine Triple.getBind fun w hw => ?_
  dsimp only
  split
  · have hdelete : Keeps (TasksAre tasks locked) (do
        modify (World.assign ref fun swap => { swap with isRedeemed := true })
        deleteFinishedReverseSwap env ref) :=
      Keeps.bind (tasks_assign _ _) fun _ => tasks_deleteFinishedReverseSwap env _
    exact Triple.pre hdelete fun _ hs => hs ▸ hw.1
  · split
    · next hreverse => exact tasks_claimReverse env ref txin _ conf hw.1 (hw.2 hreverse)
    · exact Triple.pre (tasks_claimNormal env ref txin _ conf) fun _ hs => hs ▸ hw.1

/-- **A chain callback leaves the locks** where the swap knows its preimage, if it is a reverse one. -/
theorem tasks_claimSwap (ref : SwapRef) :
    Triple (Secretive ref tasks locked) (claimSwap env ref)
      (fun _ => TasksAre tasks locked) (fun _ => TasksAre tasks locked) := by
  have hraises : ∀ s : World, Secretive ref tasks locked s → TasksAre tasks locked s := fun _ hs => hs.1
  unfold claimSwap
  refine triple_orRaise hraises fun upToDate _ => ?_
  split
  · refine triple_orRaise hraises fun current_height _ => Triple.getBind fun w hw => ?_
    refine triple_orRaise (fun s hs => hs ▸ hw.1) fun txos _ => ?_
    have hlift : Triple (· = w) (liftExcept (selectTxo (w.heap ref) txos))
        (fun _ => Secretive ref tasks locked) (fun _ => TasksAre tasks locked) :=
      Triple.conseq (keeps_liftExcept _) (fun _ hs => hs ▸ hw) (fun _ _ hs => hs)
        fun _ _ hs => hs.1
    refine Triple.bind hlift fun selected => ?_
    unfold claimSelected
    split
    · have hfails : Keeps (TasksAre tasks locked)
          (if ((w.heap ref).locktime : Int) - current_height ≤ 0 then failSwap env ref else pure ()) :=
        Keeps.ite (tasks_failSwap env ref) Keeps.pure
      exact Triple.pre hfails fun _ hs => hs.1
    · next txin =>
      unfold claimFunded
      have hassign : Keeps (Secretive ref tasks locked)
          (modify (World.assign ref fun swap => { swap with fundingTxid := some txin.prevout.txid })) :=
        secretive_assign ref fun _ => ⟨rfl, rfl⟩
      have hadd : Keeps (Secretive ref tasks locked) (addOrReindexSwap ref) :=
        secretive_addOrReindexSwap ref
      have hspent : Keeps (Secretive ref tasks locked) (if txin.spentHeight.isSome then
          modify (World.assign ref fun swap => { swap with spendingTxid := txin.spentTxid })
          else pure () : PyM PUnit) :=
        Keeps.ite (secretive_assign ref fun _ => ⟨rfl, rfl⟩) Keeps.pure
      have hweaken : ∀ {p : PyM PUnit}, Keeps (Secretive ref tasks locked) p →
          Triple (Secretive ref tasks locked) p (fun _ => Secretive ref tasks locked)
            (fun _ => TasksAre tasks locked) :=
        fun h => Triple.conseq h (fun _ => id) (fun _ _ => id) fun _ _ hs => hs.1
      refine Triple.bind (hweaken hassign) fun _ => Triple.bind (hweaken hadd) fun _ => ?_
      refine triple_orRaise hraises fun conf _ => Triple.bind (hweaken hspent) fun _ => ?_
      exact tasks_claimLocated env ref current_height txin conf
  · exact Triple.pure fun _ hs => hs.1

/-! ## Requests -/

theorem tasks_b11invoiceFromHash (payment_hash : Bytes) (amount_msat : Int)
    (message : String) (expiry : Nat) :
    Keeps (TasksAre tasks locked) (b11invoiceFromHash env payment_hash amount_msat message expiry) := by
  unfold b11invoiceFromHash
  exact Keeps.bind (keeps_pyAssert _) fun _ => Keeps.bind (Keeps.ite Keeps.pure Keeps.throw) fun _ =>
    Keeps.bind (keeps_orRaise _ _) fun _ => Keeps.bind (Keeps.ite Keeps.throw Keeps.pure) fun _ =>
    Keeps.bind (keeps_orRaise _ _) fun _ => Keeps.bind (tasks_saveHoldInvoice env _) fun _ =>
    Keeps.pure

omit [Deployment] in
theorem tasks_bundlePayments (swap_invoice prepay_invoice : Bytes) :
    Keeps (TasksAre tasks locked) (bundlePayments env swap_invoice prepay_invoice) := by
  refine Keeps.get fun w => ?_
  split
  · exact Keeps.throw
  · exact Keeps.bind (tasks_modify fun w => w.payments_popHoldInvoice _) fun _ =>
      Keeps.bind (Keeps.ite Keeps.throw Keeps.pure) fun _ => tasks_saveHoldInvoice env _

omit [Deployment] in
theorem tasks_getRecvAmount (send_amount : Int) (is_reverse : Bool) :
    Keeps (TasksAre tasks locked) (getRecvAmount send_amount is_reverse) := by
  refine Keeps.get fun w => ?_
  split
  · exact Keeps.throw
  · exact Keeps.pure

omit [Deployment] in
theorem tasks_getSendAmount (recv_amount : Int) (is_reverse : Bool) :
    Keeps (TasksAre tasks locked) (getSendAmount recv_amount is_reverse) := by
  refine Keeps.get fun w => Keeps.ite Keeps.pure ?_
  split
  · exact Keeps.throw
  · exact Keeps.pure

theorem tasks_createNormalSwap (lightning_amount_sat : Int) (payment_hash their_pubkey : Bytes) :
    Keeps (TasksAre tasks locked) (createNormalSwap env lightning_amount_sat payment_hash their_pubkey) := by
  unfold createNormalSwap addNormalSwap
  exact Keeps.bind (keeps_pyAssert _) fun _ => Keeps.bind (keeps_orRaise _ _) fun _ =>
    Keeps.bind (tasks_getRecvAmount _ _) fun _ =>
    Keeps.bind (Keeps.bind (tasks_b11invoiceFromHash env _ _ _ _) fun _ =>
    Keeps.bind (tasks_createPaymentInfo env) fun _ =>
    Keeps.bind (tasks_b11invoiceFromHash env _ _ _ _) fun _ =>
    Keeps.bind (tasks_bundlePayments env _ _) fun _ => Keeps.bind (keeps_orRaise _ _) fun _ =>
    Keeps.get fun _ => Keeps.bind (tasks_modify fun _ => rfl) fun _ =>
    Keeps.bind (tasks_addOrReindexSwap _) fun _ => Keeps.bind (Keeps.ite Keeps.pure Keeps.throw) fun _ =>
    Keeps.bind (tasks_modify fun _ => rfl) fun _ => Keeps.pure) fun _ =>
    Keeps.bind (tasks_modify fun _ => rfl) fun _ => Keeps.pure

theorem tasks_createReverseSwap (lightning_amount_sat : Int) (their_pubkey : Bytes) :
    Keeps (TasksAre tasks locked) (createReverseSwap env lightning_amount_sat their_pubkey) := by
  unfold createReverseSwap addReverseSwap
  exact Keeps.bind (keeps_orRaise _ _) fun _ => Keeps.bind (tasks_getSendAmount _ _) fun _ =>
    Keeps.bind (keeps_orRaise _ _) fun _ => Keeps.bind (Keeps.ite Keeps.pure Keeps.throw) fun _ =>
    Keeps.get fun _ => Keeps.bind (tasks_modify fun _ => rfl) fun _ =>
    Keeps.bind (tasks_addOrReindexSwap _) fun _ => Keeps.bind (tasks_modify fun _ => rfl) fun _ =>
    Keeps.pure

/-- Every key but that of the invoice keeps its lock. -/
theorem tasks_serverAddSwapInvoice {invoice : Option Invoice}
    (hk : ∀ inv, invoice = some inv → ¬ locked (hex inv.rhash)) :
    Keeps (TasksAre tasks locked) (serverAddSwapInvoice env invoice) := by
  cases invoice with
  | none => exact Keeps.throw
  | some inv =>
    unfold serverAddSwapInvoice
    rw [orRaise_some, pure_bind]
    refine Keeps.get fun _ => ?_
    split
    · exact Keeps.throw
    · exact Keeps.bind (keeps_orRaise _ _) fun _ => Keeps.bind (keeps_pyAssert _) fun _ =>
        Keeps.bind (tasks_saveInvoice env _) fun _ => Keeps.bind (keeps_orRaise _ _) fun _ =>
        Keeps.bind (keeps_pyAssert _) fun _ => Keeps.bind (keeps_pyAssert _) fun _ =>
        tasks_setInvoiceToPay (hk inv rfl) _

theorem tasks_handleRequest {request : ClientRequest}
    (hk : ∀ inv, request = .addswapinvoice (some inv) → ¬ locked (hex inv.rhash)) :
    Keeps (TasksAre tasks locked) (handleRequest env request) := by
  cases request with
  | createswap =>
    unfold handleRequest serverCreateSwap
    exact Keeps.bind (keeps_pyAssert _) fun _ => Keeps.ite (Keeps.bind (keeps_pyAssert _) fun _ =>
      Keeps.bind (keeps_pyAssert _) fun _ => Keeps.ite Keeps.pure (Keeps.bind (keeps_orRaise _ _)
      fun _ => Keeps.ite Keeps.pure (Keeps.bind (tasks_createNormalSwap env _ _ _) fun _ =>
      Keeps.pure))) Keeps.pure
  | createnormalswap =>
    unfold handleRequest serverCreateNormalSwap
    exact Keeps.bind (keeps_pyAssert _) fun _ => Keeps.ite Keeps.pure
      (Keeps.bind (tasks_createReverseSwap env _ _) fun _ => Keeps.pure)
  | addswapinvoice invoice =>
    exact tasks_serverAddSwapInvoice env fun inv hinv => hk inv (congrArg _ hinv)
  | unknown => exact Keeps.pure

/-! ## A step -/

omit [Deployment] in
theorem tasks_registerHoldInvoiceCallback (k : Hex) (callback : HoldInvoiceCallback) :
    Keeps (TasksAre tasks locked) (registerHoldInvoiceCallback k callback) :=
  tasks_modify fun _ => rfl

omit [Deployment] in
theorem tasks_initSwapManager : Keeps (TasksAre tasks locked) initSwapManager :=
  Keeps.get fun _ => Keeps.forM fun _ _ => Keeps.get fun _ =>
    Keeps.ite (Keeps.ite (tasks_registerHoldInvoiceCallback _ _)
      (tasks_modify fun w => w.payments_popSwap _)) Keeps.pure

omit [Deployment] in
theorem tasks_mainLoop : Keeps (TasksAre tasks locked) mainLoop := by
  refine Keeps.get fun _ => Keeps.bind (Keeps.forM fun _ _ => Keeps.ite Keeps.pure
    (tasks_modify fun _ => rfl)) fun _ => Keeps.modify fun w hw => ⟨hw.tasks, fun key _ t hget => ?_⟩
  -- the table it starts with is empty
  cases hget

/-- The step is one of the payment tasks, or ends them all. -/
def Action.Pays : Action → Prop
  | .payPending _ => True
  | .payTask _ _ _ => True
  | .reload _ => True
  | .crash _ _ => True
  | _ => False

/-- The key whose time a request sets, if it goes that far. -/
def Action.queues? : Action → Option Hex
  | .request _ (.addswapinvoice (some invoice)) => some (hex invoice.rhash)
  | _ => none

/-- **Every other step leaves the payment tasks alone**, and each lock but that of a key that a request
sets. -/
theorem tasks_step {a : Action} (ha : ¬ a.Pays) (hqueues : ∀ key, a.queues? = some key → ¬ locked key)
    {w : World} (hsecrets : SwapsThroughout SwapData.Revealable w) (hw : TasksAre tasks locked w) :
    TasksAre tasks locked (step a w) := by
  have hof : Keeps (TasksAre tasks locked) (programOf a) → TasksAre tasks locked (step a w) :=
    fun h => h.final hw
  cases a with
  | request env request =>
    refine hof (keeps_atStage (tasks_handleRequest env fun inv hinv => hqueues _ ?_))
    rw [hinv]
    rfl
  | htlc env forward payment_secret request => exact hof (tasks_pluginHtlcAcceptedHook env _ _ _)
  | expiry env => exact hof (tasks_monitorExpiries env)
  | callbacks env => exact hof (tasks_callbackHandler env)
  | claim env address =>
    have hclaim : Triple (· = w) (claimAddress env address)
        (fun _ => TasksAre tasks locked) (fun _ => TasksAre tasks locked) := by
      refine Triple.getBind fun s hs => ?_
      subst hs
      split
      · next ref href =>
        refine Triple.pre (tasks_claimSwap env ref) fun s hs => ?_
        exact hs ▸ ⟨hw, hsecrets.live ref (hsecrets.watched address ref href)⟩
      · exact Triple.pure fun _ hs => hs ▸ hw
    exact hclaim.final rfl
  | updatePairs env => exact hof (tasks_modify fun _ => rfl)
  | rehash k order => exact hof (tasks_mut _ _ _)
  | payPending env => exact absurd trivial ha
  | payTask env n result => exact absurd trivial ha
  | reload env => exact absurd trivial ha
  | crash env n => exact absurd trivial ha
  | initSwapManager =>
    exact hof (keeps_atStage (Keeps.bind tasks_initSwapManager fun _ => tasks_modify fun _ => rfl))
  | mainLoop => exact hof (keeps_atStage tasks_mainLoop)

end

end SubswapProvider
