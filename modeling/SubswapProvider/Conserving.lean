import SubswapProvider.Prepaying
import SubswapProvider.Sending
import SubswapProvider.Tallying
import SubswapProvider.Terms

/-!
# What a swap pays out is paid in

The amount a swap pays out is in `SwapData`, the amounts it collects are in two hold invoices, and the two
tables are filled one after another. Three facts about every copy of these objects say how they belong
together: an invoice is one that a `createswap` issued, for the amount of it (`BilledIn`), a swap pays out no
more than its lightning amount (`PaysOutWithin`), and a settled invoice has been paid in full
(`PaidWhenSettled`, `settled_in_full`). When the payment hashes of a run are distinct, the three objects of a
swap come from one request (`invoices_ask_lightning_amount`), and the funding transaction is covered by what the
client has paid (`funding_covered`).

A payment hash that is used again separates them: the hold invoice is replaced, the swap is not
(`funding_not_covered`).
-/

namespace SubswapProvider

open Deployment Effect

section

variable [Deployment]

/-! ## The fees

They are set by `server_update_pairs` alone. -/

/-- The fees a client is charged are not negative. -/
def World.FeesNonNeg (w : World) : Prop := ∀ p, w.pairs = some p → p.NonNeg

theorem feesNonNeg_serverUpdatePairs (hfee : 0 ≤ config.swapserverFeeMillionths) (env : Env) :
    Keeps World.FeesNonNeg (serverUpdatePairs env) := by
  refine Keeps.modify fun s _ p hp => ?_
  cases hp
  refine ⟨?_, (by decide : (0 : Int) ≤ 20000), ?_⟩
  · exact percentageOf_nonneg hfee
  · exact Int.natCast_nonneg _

omit [Deployment] in
theorem World.FeesNonNeg.of_pairs {w w' : World} (h : w.FeesNonNeg) (hpairs : w'.pairs = w.pairs) :
    w'.FeesNonNeg := by
  unfold World.FeesNonNeg
  rw [hpairs]
  exact h

omit [Deployment] in
theorem World.assign_pairs (ref : SwapRef) (f : SwapData → SwapData) (w : World) :
    (w.assign ref f).pairs = w.pairs := by
  dsimp only [World.assign]
  split
  · rfl
  · rfl

section

variable {α : Type} {x : PyM α}

omit [Deployment] in
theorem fees_of_quiet (h : ∀ w₀, Keeps (Quiet w₀) x) : Keeps World.FeesNonNeg x :=
  Keeps.of_rel h Quiet.refl fun _ _ hst hs => hs.of_pairs hst.pairs

omit [Deployment] in
theorem fees_of_same (h : ∀ w₀, Keeps (SwapsSame w₀) x) : Keeps World.FeesNonNeg x :=
  Keeps.of_rel h SwapsSame.refl fun _ _ hst hs => hs.of_pairs hst.pairs

omit [Deployment] in
theorem fees_modify {f : World → World} (h : ∀ w, (f w).pairs = w.pairs) :
    Keeps World.FeesNonNeg (modify f : PyM PUnit) :=
  Keeps.modify fun s hs => hs.of_pairs (h s)

end

section

variable (env : Env)

omit [Deployment] in
theorem fees_addOrReindexSwap (ref : SwapRef) : Keeps World.FeesNonNeg (addOrReindexSwap ref) :=
  Keeps.get fun _ => Keeps.ite Keeps.pure (fees_modify fun _ => rfl)

theorem fees_createNormalSwap (lightning_amount_sat : Int) (payment_hash their_pubkey : Bytes) :
    Keeps World.FeesNonNeg
      (createNormalSwap env lightning_amount_sat payment_hash their_pubkey) := by
  unfold createNormalSwap addNormalSwap
  refine Keeps.bind (keeps_pyAssert _) fun _ => Keeps.bind (keeps_orRaise _ _) fun height =>
    triple_getRecvAmount (fun _ hs => hs) fun p => Triple.pre ?_ fun _ hs => hs.1
  refine Keeps.bind ?_ fun _ => Keeps.bind (fees_modify fun _ => rfl) fun _ => Keeps.pure
  refine Keeps.bind (fees_of_same fun w₀ => same_b11invoiceFromHash env w₀ _ _ _ _) fun invoice =>
    Keeps.bind (fees_of_same fun w₀ => same_createPaymentInfo env w₀) fun _ =>
    Keeps.bind (fees_of_same fun w₀ => same_b11invoiceFromHash env w₀ _ _ _ _) fun _ =>
    Keeps.bind (fees_of_same fun w₀ => same_bundlePayments env w₀ _ _) fun _ =>
    Keeps.bind (keeps_orRaise _ _) fun _ => Keeps.get fun w =>
    Keeps.bind (fees_modify fun _ => rfl) fun _ => Keeps.bind (fees_addOrReindexSwap _) fun _ =>
    Keeps.bind (fees_of_quiet fun w₀ => quiet_registerAddress env w₀ _) fun _ =>
    Keeps.bind (fees_of_quiet fun w₀ => quiet_addLnwatcherCallback w₀ _) fun _ => Keeps.pure

theorem fees_createReverseSwap (lightning_amount_sat : Int) (their_pubkey : Bytes) :
    Keeps World.FeesNonNeg (createReverseSwap env lightning_amount_sat their_pubkey) := by
  unfold createReverseSwap addReverseSwap
  refine Keeps.bind (keeps_orRaise _ _) fun height => Keeps.bind (Keeps.get fun w => ?_) fun _ => ?_
  · refine Keeps.ite Keeps.pure ?_
    split
    · exact Keeps.throw
    · exact Keeps.pure
  · exact Keeps.bind (keeps_orRaise _ _) fun _ =>
      Keeps.bind (fees_of_quiet fun w₀ => quiet_registerAddress env w₀ _) fun _ => Keeps.get fun w =>
      Keeps.bind (fees_modify fun _ => rfl) fun _ => Keeps.bind (fees_addOrReindexSwap _) fun _ =>
      Keeps.bind (fees_of_quiet fun w₀ => quiet_addLnwatcherCallback w₀ _) fun _ => Keeps.pure

theorem fees_handleRequest (r : ClientRequest) : Keeps World.FeesNonNeg (handleRequest env r) := by
  cases r with
  | createswap type pairId invoiceAmount preimageHash claimPublicKey =>
    refine Keeps.bind (keeps_pyAssert _) fun _ => Keeps.ite ?_ Keeps.pure
    refine Keeps.bind (keeps_pyAssert _) fun _ => Keeps.bind (keeps_pyAssert _) fun _ =>
      Keeps.ite Keeps.pure (Keeps.bind (keeps_orRaise _ _) fun _ => Keeps.ite Keeps.pure ?_)
    exact Keeps.bind (fees_createNormalSwap env _ _ _) fun _ => Keeps.pure
  | createnormalswap invoiceAmount refundPublicKey =>
    exact Keeps.bind (keeps_pyAssert _) fun _ => Keeps.ite Keeps.pure
      (Keeps.bind (fees_createReverseSwap env _ _) fun _ => Keeps.pure)
  | addswapinvoice invoice => exact fees_of_quiet fun w₀ => quiet_serverAddSwapInvoice env w₀ invoice
  | unknown method => exact Keeps.pure

omit [Deployment] in
theorem fees_holdInvoiceCallback (payment_hash : Bytes) :
    Keeps World.FeesNonNeg (holdInvoiceCallback env payment_hash) := by
  unfold holdInvoiceCallback
  refine Keeps.get fun w => ?_
  split
  · exact Keeps.pure
  · next ref _ =>
    refine Keeps.ite (Keeps.bind ?_ fun tx => Keeps.tryCatch ?_ fun _ =>
      fees_of_quiet fun w₀ => quiet_failSwap env w₀ ref) Keeps.pure
    · unfold createFundingTx
      exact Keeps.get fun _ => Keeps.bind (fees_modify fun _ => rfl) fun _ =>
        Keeps.bind (keeps_orRaise _ _) fun _ => keeps_createTransaction _ _
    · unfold broadcastFundingTx
      exact Keeps.bind (fees_modify fun _ => World.assign_pairs ..) fun _ =>
        Keeps.get fun _ => Keeps.bind (fees_modify fun _ => rfl) fun _ =>
        Keeps.ite Keeps.pure Keeps.throw

theorem fees_callbackHandler : Keeps World.FeesNonNeg (callbackHandler env (callOf env)) := by
  apply keeps_callbackPass
  · exact fun k => fees_modify fun _ => rfl
  · intro w p prepay preimage hw _
    exact (fees_of_same fun w₀ => same_settleInvoice w₀ prepay preimage).pre fun s hs => hs ▸ hw
  · exact fun h => fees_of_same fun w₀ => same_updateInvoice env w₀ h
  · exact fun _ w hw => hw.of_pairs rfl
  · exact fees_holdInvoiceCallback env

omit [Deployment] in
theorem fees_payTaskStep (n : Nat) (result : PayResult) :
    Keeps World.FeesNonNeg (payTaskStep env n result) := by
  unfold payTaskStep
  refine Keeps.get fun w => ?_
  split
  · exact Keeps.pure
  · refine Keeps.bind (fees_modify fun _ => rfl) fun _ => ?_
    split
    · unfold payPendingLnInvoice
      refine Keeps.bind (fees_of_quiet fun w₀ => quiet_setInvoiceToPay w₀ _ _) fun _ =>
        Keeps.get fun w => ?_
      split
      · exact fees_of_quiet fun w₀ => quiet_failSwapOf env w₀ _
      · exact Keeps.bind (fees_modify fun _ => rfl) fun _ => fees_modify fun _ => rfl
    · exact fees_of_quiet fun w₀ => quiet_paidLnInvoice env w₀ _ _ _

omit [Deployment] in
theorem fees_initSwapManager : Keeps World.FeesNonNeg initSwapManager := by
  unfold initSwapManager
  refine Keeps.get fun w => Keeps.forM fun item _ => Keeps.get fun w => Keeps.ite ?_ Keeps.pure
  refine Keeps.ite (fees_modify fun _ => rfl) (fees_modify fun s => ?_)
  unfold World.popSwap
  split
  · rfl
  · rfl

omit [Deployment] in
theorem fees_mainLoop : Keeps World.FeesNonNeg mainLoop :=
  Keeps.get fun _ => Keeps.bind (Keeps.forM fun _ _ => Keeps.ite Keeps.pure
    (fees_of_quiet fun w₀ => quiet_addLnwatcherCallback w₀ _)) fun _ => fees_modify fun _ => rfl

omit [Deployment] in
/-- After a restart the fees are not set. -/
theorem World.FeesNonNeg.restart {w : World} (h : w.FeesNonNeg) (view : View) :
    (w.restart env view).FeesNonNeg := by
  unfold World.restart
  split
  · exact h
  · exact fun p hp => nomatch hp

end

theorem step_feesNonNeg (hfee : 0 ≤ config.swapserverFeeMillionths) {a : Action} {w : World}
    (hc : ∀ env address, a ≠ .claim env address) (h : w.FeesNonNeg) : (step a w).FeesNonNeg := by
  have hkeeps : Keeps World.FeesNonNeg (programOf a) := by
    cases a with
    | request env r => exact keeps_atStage (fees_handleRequest env r)
    | htlc env forward payment_secret r =>
      exact fees_of_same fun w₀ => same_pluginHtlcAcceptedHook env w₀ forward payment_secret r
    | expiry env => exact fees_of_same fun w₀ => same_monitorExpiries env w₀
    | callbacks env => exact fees_callbackHandler env
    | claim env address => exact absurd rfl (hc env address)
    | updatePairs env => exact feesNonNeg_serverUpdatePairs hfee env
    | rehash k order => exact fees_modify fun _ => rfl
    | payPending env => exact fees_of_quiet fun w₀ => quiet_payPendingLnInvoices env w₀
    | payTask env n result => exact fees_payTaskStep env n result
    | reload env => exact Keeps.modify fun s hs => hs.restart env _
    | crash env n =>
      refine Keeps.modify fun s hs => ?_
      unfold World.crash
      split
      · exact hs
      · exact hs.restart env _
    | initSwapManager =>
      exact keeps_atStage (Keeps.bind fees_initSwapManager fun _ => fees_modify fun _ => rfl)
    | mainLoop => exact keeps_atStage fees_mainLoop
  exact hkeeps.final h

theorem feesNonNeg_runOf (hfee : 0 ≤ config.swapserverFeeMillionths) (actions : List Action)
    (hc : NoClaims actions) : (runOf actions World.start).FeesNonNeg := by
  induction actions using List.reverseRecOn with
  | nil => exact fun p hp => nomatch hp
  | append_singleton past a ih =>
    rw [runOf_append]
    exact step_feesNonNeg hfee hc.last (ih hc.init)

/-! ## The amount paid out -/

/-- The swap pays out no more than its lightning amount. -/
def PaysOutWithin (swap : SwapData) : Prop :=
  swap.isReverse = false → ∀ n, swap.onchainAmount = some n → n ≤ swap.lightningAmount

omit [Deployment] in
theorem ofDeal_paysOutWithin : OfDeal PaysOutWithin := by
  intro swap swap' hs h hnormal n hn
  rw [hs.lightningAmount]
  exact h (hs.isReverse ▸ hnormal) n (hs.onchainAmount ▸ hn)

omit [Deployment] in
theorem Priced.paysOutWithin {swap : SwapData} (h : Priced Pairs.NonNeg swap) : PaysOutWithin swap := by
  intro hnormal n hn
  obtain ⟨p, hp, hprice⟩ := h hnormal
  exact Pairs.recvAmount_le hp (hprice.symm.trans hn)

theorem paysOutWithin_throughout (hfee : 0 ≤ config.swapserverFeeMillionths) (actions : List Action)
    (hc : NoClaims actions) : SwapsThroughout PaysOutWithin (runOf actions World.start) := by
  induction actions using List.reverseRecOn with
  | nil => exact .start
  | append_singleton past a ih =>
    rw [runOf_append]
    exact throughout_step ofDeal_paysOutWithin (fun _ _ h => h.paysOutWithin)
      (feesNonNeg_runOf hfee past hc.init) (ih hc.init)

/-! ## The amounts collected -/

/-- A hold invoice as the step `a` issues it. -/
inductive Bills (a : Action) (inv : HoldInvoice) : Prop
  | main (env : Env) (type pairId : String) (invoiceAmount : Int) (claimPublicKey : Bytes)
      (request : a = .request env
        (.createswap type pairId invoiceAmount inv.paymentHash claimPublicKey))
      (amount : inv.amountMsat = (invoiceAmount - getClaimFee env * 2) * 1000)
  | prepay (env : Env) (type pairId : String) (invoiceAmount : Int)
      (preimageHash claimPublicKey : Bytes) (request : a = .request env
        (.createswap type pairId invoiceAmount preimageHash claimPublicKey))
      (hash : inv.paymentHash = sha256 env.urandomPreimage)
      (amount : inv.amountMsat = (getClaimFee env * 2 : Int) * 1000)

/-- It comes from one of the requests. -/
def BilledIn (actions : List Action) (inv : HoldInvoice) : Prop := ∃ a ∈ actions, Bills a inv

omit [Deployment] in
/-- The parts of a hold invoice that are never assigned. -/
structure SameBill (inv inv' : HoldInvoice) : Prop where
  paymentHash : inv'.paymentHash = inv.paymentHash
  amountMsat : inv'.amountMsat = inv.amountMsat

/-- `P` speaks of these parts only. -/
def OfBill (P : HoldInvoice → Prop) : Prop := ∀ inv inv', SameBill inv inv' → P inv → P inv'

theorem Bills.congr {a : Action} {inv inv' : HoldInvoice} (h : Bills a inv) (hs : SameBill inv inv') :
    Bills a inv' := by
  cases h with
  | main env type pairId invoiceAmount claimPublicKey request amount =>
    exact .main env type pairId invoiceAmount claimPublicKey (hs.paymentHash ▸ request)
      (hs.amountMsat.trans amount)
  | prepay env type pairId invoiceAmount preimageHash claimPublicKey request hash amount =>
    exact .prepay env type pairId invoiceAmount preimageHash claimPublicKey request
      (hs.paymentHash.trans hash) (hs.amountMsat.trans amount)

theorem ofBill_billedIn (actions : List Action) : OfBill (BilledIn actions) := by
  rintro inv inv' hs ⟨a, ha, h⟩
  exact ⟨a, ha, h.congr hs⟩

theorem Alters.sameBill {a : Action} {w : World} {k : Hex} {inv inv' : HoldInvoice}
    (hal : Alters a w k inv inv') : SameBill inv inv' := by
  cases hal <;> exact ⟨rfl, rfl⟩

section Billing

variable {P : HoldInvoice → Prop} {env : Env} {w : World}

omit [Deployment] in
theorem HoldsThroughout.setHoldInvoice {invoice : HoldInvoice} (hP : OfBill P)
    (h : HoldsThroughout (fun _ => P) w) (hinvoice : P invoice) :
    HoldsThroughout (fun _ => P) (w.setHoldInvoice invoice) := by
  have hlive : ∀ k inv, (w.setHoldInvoice invoice).holdInvoices.get? k = some inv → P inv := by
    intro k inv hinv
    dsimp only [World.setHoldInvoice] at hinv
    split at hinv
    · exact h.live k inv hinv
    · have hget := (HoldInvoices.get?_set _ _ _).symm.trans hinv
      split at hget
      · cases hget
        exact hinvoice
      · exact h.live k inv hget
  refine ⟨⟨hlive, fun d hd k inv hinv => ?_⟩, ?_⟩
  · rcases storedOrigin_setHold hd hinv with ⟨d₀, hd₀, hget⟩ | ⟨live, hget, rfl⟩
    · exact h.stored d₀ hd₀ k inv hget
    · exact hP live _ ⟨rfl, rfl⟩ (hlive k live hget)
  · rw [(Recorded.setHoldInvoice w invoice).views]
    exact h.views

omit [Deployment] in
theorem HoldsThroughout.popHoldInvoice (k : Hex) (h : HoldsThroughout (fun _ => P) w) :
    HoldsThroughout (fun _ => P) (w.popHoldInvoice k) := by
  refine ⟨⟨fun k' inv hinv => ?_, fun d hd k' inv hinv => ?_⟩, ?_⟩
  · unfold World.popHoldInvoice at hinv
    split at hinv
    · have hget := (HoldInvoices.get?_pop _ _ _).symm.trans hinv
      split at hget
      · cases hget
      · exact h.live k' inv hget
    · exact h.live k' inv hinv
  · obtain ⟨d₀, hd₀, hget⟩ := stores_popHold hd hinv
    exact h.stored d₀ hd₀ k' inv hget
  · rw [(Recorded.popHoldInvoice w k).views]
    exact h.views

variable (hP : OfBill P)

include hP

/-- A move of a step that is no `createswap`. -/
theorem HoldsThroughout.moveOn {a : Action} {w₀ w' : World} (h : HoldsThroughout (fun _ => P) w)
    (ha : a.pair? = none) (hmove : Move a w₀ w w') : HoldsThroughout (fun _ => P) w' := by
  refine h.move hmove (fun _ inv => hP inv _ ⟨rfl, rfl⟩) (fun _ h => h) ?_
    fun k inv inv' _ hal => hP inv inv' hal.sameBill
  intro inv hfresh _
  obtain ⟨_, _, hpair, -⟩ := hfresh.pair
  rw [ha] at hpair
  cases hpair

/-- What is no `createswap` issues no invoice, whoever runs it. -/
theorem billed_moves {α : Type} {p : PyM α} (h : Moves (Move .initSwapManager World.start) p) :
    Keeps (HoldsThroughout fun _ => P) p :=
  h.keeps fun _ _ hmove hs => hs.moveOn hP rfl hmove

theorem billed_saveHoldInvoice {invoice : HoldInvoice} (hinvoice : P invoice) :
    Keeps (HoldsThroughout fun _ => P) (saveHoldInvoice env invoice) :=
  Keeps.bind (Keeps.modify fun _ hs => hs.setHoldInvoice hP hinvoice) fun _ =>
    billed_moves hP (moves_dbWrite env)

theorem billed_b11invoiceFromHash {payment_hash : Bytes} {amount_msat : Int} (message : String)
    (expiry : Nat) (hnew : ∀ inv : HoldInvoice, inv.paymentHash = payment_hash →
      inv.amountMsat = amount_msat → P inv) :
    Keeps (HoldsThroughout fun _ => P)
      (b11invoiceFromHash env payment_hash amount_msat message expiry) := by
  unfold b11invoiceFromHash
  exact Keeps.bind (keeps_pyAssert _) fun _ => Keeps.bind (Keeps.ite Keeps.pure Keeps.throw) fun _ =>
    Keeps.bind (keeps_orRaise _ _) fun _ => Keeps.bind (Keeps.ite Keeps.throw Keeps.pure) fun _ =>
    Keeps.bind (keeps_orRaise _ _) fun _ =>
    Keeps.bind (billed_saveHoldInvoice hP (hnew _ rfl rfl)) fun _ => Keeps.pure

theorem billed_bundlePayments (swap_invoice prepay_invoice : Bytes) :
    Keeps (HoldsThroughout fun _ => P) (bundlePayments env swap_invoice prepay_invoice) := by
  unfold bundlePayments
  refine Keeps.getBind fun w hw => ?_
  split
  · exact Triple.throw fun s hs => hs ▸ hw
  · next invoice hinvoice =>
    have hsame : P { invoice with associatedInvoice := some prepay_invoice } :=
      hP invoice _ ⟨rfl, rfl⟩ (hw.live _ invoice hinvoice)
    refine Triple.modifyBind (R := HoldsThroughout fun _ => P) (fun s hs => ?_) ?_
    · rw [hs]
      exact hw.popHoldInvoice _
    · exact Keeps.bind (Keeps.ite Keeps.throw Keeps.pure) fun _ => billed_saveHoldInvoice hP hsame

omit [Deployment] hP in
theorem billed_addOrReindexSwap (ref : SwapRef) :
    Keeps (HoldsThroughout fun _ => P) (addOrReindexSwap ref) := by
  refine Keeps.get fun w => Keeps.ite Keeps.pure (Keeps.modify fun s hs => ?_)
  exact ⟨hs.toHoldsNow.setSwap _ ref, hs.views⟩

omit [Deployment] hP in
theorem billed_elsewhere {f : World → World} (hf : ∀ s, (f s).holdInvoices = s.holdInvoices ∧
    (f s).db = s.db ∧ (f s).views = s.views) :
    Keeps (HoldsThroughout fun _ => P) (modify f : PyM PUnit) := by
  refine Keeps.modify fun s hs => ?_
  obtain ⟨hholds, hdb, hviews⟩ := hf s
  refine ⟨⟨?_, fun d hd => hs.stored d ?_⟩, ?_⟩
  · rw [hholds]
    exact hs.live
  · unfold World.Stores at hd ⊢
    rw [hdb] at hd
    exact hd
  · rw [hviews]
    exact hs.views

theorem billed_createNormalSwap {a : Action} {type pairId : String} {invoiceAmount : Int}
    {preimageHash claimPublicKey : Bytes} (hnew : ∀ inv, Bills a inv → P inv)
    (ha : a = .request env (.createswap type pairId invoiceAmount preimageHash claimPublicKey)) :
    Keeps (HoldsThroughout fun _ => P)
      (createNormalSwap env invoiceAmount preimageHash claimPublicKey) := by
  unfold createNormalSwap
  refine Keeps.bind (keeps_pyAssert _) fun _ => Keeps.bind (keeps_orRaise _ _) fun height =>
    triple_getRecvAmount (fun _ hs => hs) fun p => Triple.pre ?_ fun _ hs => hs.1
  refine Keeps.bind ?_ fun _ => Keeps.bind (billed_elsewhere fun _ => ⟨rfl, rfl, rfl⟩) fun _ =>
    Keeps.pure
  unfold addNormalSwap
  refine Keeps.bind (billed_b11invoiceFromHash hP _ _ fun inv hhash hamount => hnew inv ?_)
    fun invoice => ?_
  · subst hhash
    exact .main env type pairId invoiceAmount claimPublicKey ha hamount
  have hwalk : Walks (Move .initSwapManager World.start) (fun _ => True) (createPaymentInfo env)
      fun h _ => h = sha256 env.urandomPreimage := moves_createPaymentInfo env
  have hpayment : Triple (fun s => HoldsThroughout (fun _ => P) s ∧ True) (createPaymentInfo env)
      (fun h s => HoldsThroughout (fun _ => P) s ∧ h = sha256 env.urandomPreimage)
      fun _ => HoldsThroughout fun _ => P :=
    hwalk.keeps fun _ _ hmove hs => hs.moveOn hP rfl hmove
  refine Triple.bind (hpayment.pre fun _ hs => ⟨hs, trivial⟩) fun prepay_hash => Triple.at fun s hs => ?_
  obtain ⟨hs, rfl⟩ := hs
  refine Triple.pre (R := HoldsThroughout fun _ => P) ?_ fun t ht => ht ▸ hs
  refine Keeps.bind (billed_b11invoiceFromHash hP _ _ fun inv hhash hamount => hnew inv ?_)
    fun prepay_invoice => ?_
  · exact .prepay env type pairId invoiceAmount preimageHash claimPublicKey ha hhash hamount
  exact Keeps.bind (billed_bundlePayments hP _ _) fun _ => Keeps.bind (keeps_orRaise _ _) fun _ =>
    Keeps.get fun w => Keeps.bind (billed_elsewhere fun _ => ⟨rfl, rfl, rfl⟩) fun _ =>
    Keeps.bind (billed_addOrReindexSwap _) fun _ =>
    Keeps.bind (billed_moves hP (moves_registerAddress env _)) fun _ =>
    Keeps.bind (billed_elsewhere fun _ => ⟨rfl, rfl, rfl⟩) fun _ => Keeps.pure

theorem billed_handleRequest {a : Action} (hnew : ∀ inv, Bills a inv → P inv) {r : ClientRequest}
    (ha : a = .request env r) : Keeps (HoldsThroughout fun _ => P) (handleRequest env r) := by
  cases r with
  | createswap type pairId invoiceAmount preimageHash claimPublicKey =>
    refine Keeps.bind (keeps_pyAssert _) fun _ => Keeps.ite ?_ Keeps.pure
    refine Keeps.bind (keeps_pyAssert _) fun _ => Keeps.bind (keeps_pyAssert _) fun _ =>
      Keeps.ite Keeps.pure (Keeps.bind (keeps_orRaise _ _) fun _ => Keeps.ite Keeps.pure ?_)
    exact Keeps.bind (billed_createNormalSwap hP hnew ha) fun _ => Keeps.pure
  | createnormalswap invoiceAmount refundPublicKey =>
    refine Keeps.bind (keeps_pyAssert _) fun _ => Keeps.ite Keeps.pure (Keeps.bind ?_ fun _ => Keeps.pure)
    unfold createReverseSwap addReverseSwap
    refine Keeps.bind (keeps_orRaise _ _) fun height => Keeps.bind (Keeps.get fun w => ?_) fun _ => ?_
    · refine Keeps.ite Keeps.pure ?_
      split
      · exact Keeps.throw
      · exact Keeps.pure
    · exact Keeps.bind (keeps_orRaise _ _) fun _ =>
        Keeps.bind (billed_moves hP (moves_registerAddress env _)) fun _ => Keeps.get fun w =>
        Keeps.bind (billed_elsewhere fun _ => ⟨rfl, rfl, rfl⟩) fun _ =>
        Keeps.bind (billed_addOrReindexSwap _) fun _ =>
        Keeps.bind (billed_elsewhere fun _ => ⟨rfl, rfl, rfl⟩) fun _ => Keeps.pure
  | addswapinvoice invoice => exact billed_moves hP (moves_serverAddSwapInvoice rfl env invoice)
  | unknown method => exact Keeps.pure

end Billing

/-- **Every copy of a hold invoice is one that was issued**, for the amount of its request. -/
theorem billed_throughout (actions : List Action) :
    HoldsThroughout (fun _ => BilledIn actions) (runOf actions World.start) := by
  induction actions using List.reverseRecOn with
  | nil => exact .start
  | append_singleton past a ih =>
    rw [runOf_append]
    have hP := ofBill_billedIn (past ++ [a])
    have hw : HoldsThroughout (fun _ => BilledIn (past ++ [a])) (runOf past World.start) := by
      refine ih.mono fun _ inv h => ?_
      obtain ⟨b, hb, hbills⟩ := h
      exact ⟨b, List.mem_append_left _ hb, hbills⟩
    by_cases ha : ∃ env r, a = .request env r
    · obtain ⟨env, r, rfl⟩ := ha
      refine (keeps_atStage (billed_handleRequest hP (fun inv h => ?_) rfl)).final hw
      exact ⟨_, List.mem_append_right _ (List.mem_singleton_self _), h⟩
    · have hsurvives : Survives a (runOf past World.start) fun w =>
          True ∧ HoldsThroughout (fun _ => BilledIn (past ++ [a])) w := by
        refine Survives.trivial.holds (fun inv => hP inv _ ⟨rfl, rfl⟩) ?_
          fun _ _ inv inv' _ _ hal => hP inv inv' hal.sameBill
        intro _ inv _ hfresh
        obtain ⟨h, p, hpair, -⟩ := hfresh.pair
        cases a with
        | request env r => exact absurd ⟨env, r, rfl⟩ ha
        | _ => cases hpair
      exact (step_invariant hsurvives ⟨trivial, hw⟩).2

/-! ## The amounts paid -/

omit [Deployment] in
/-- A new callback takes nothing away. -/
theorem HoldInvoice.msat_le_setHtlcCallback (p : HtlcState → Bool) (k : HtlcKey) (r : Request)
    (inv : HoldInvoice) : inv.incomingHtlcs.msat (fun x => p x.state)
      ≤ (inv.setHtlcCallback k r).incomingHtlcs.msat fun x => p x.state := by
  apply HtlcSet.msat_le_modify
  · exact fun _ => rfl
  · exact fun _ hx => hx

omit [Deployment] in
/-- Nor does a change of state of an HTLC that did not count. -/
theorem HoldInvoice.msat_le_setHtlcState {p : Htlc → Bool} {k : HtlcKey} (st : HtlcState)
    {inv : HoldInvoice} (hp : ∀ x ∈ inv.incomingHtlcs, x.key = k → p x = false) :
    inv.incomingHtlcs.msat p ≤ (inv.setHtlcState k st).incomingHtlcs.msat p := by
  apply HtlcSet.msat_le_map
  · intro x
    split
    · rfl
    · rfl
  · intro x hx hpx
    split
    · next hkey => rw [hp x hx hkey] at hpx; cases hpx
    · exact hpx

/-- A settled invoice has been paid in full. -/
def PaidWhenSettled (inv : HoldInvoice) : Prop :=
  inv.fundingStatus = .settled → inv.amountMsat ≤ inv.msatIn .settled

section

variable {w : World} {k : Hex} {inv inv' : HoldInvoice}

omit [Deployment] in
theorem PaidWhenSettled.stored (h : PaidWhenSettled inv) : PaidWhenSettled inv.stored := by
  intro hsettled
  have hmsat : (inv.incomingHtlcs.map Htlc.stored Htlc.key_stored).msat (fun x => x.state = .settled)
      = inv.incomingHtlcs.msat fun x => x.state = .settled := HtlcSet.msat_map fun _ _ => rfl
  show inv.amountMsat ≤ ((HtlcSet.msat _ (inv.incomingHtlcs.map Htlc.stored Htlc.key_stored) : Nat) : Int)
  rw [hmsat]
  exact h hsettled

omit [Deployment] in
/-- What does not touch the status, and takes no settled HTLC away. -/
theorem PaidWhenSettled.of_le (h : PaidWhenSettled inv)
    (hstatus : inv'.fundingStatus = inv.fundingStatus) (hamount : inv'.amountMsat = inv.amountMsat)
    (hmsat : inv.incomingHtlcs.msat (fun x => x.state = .settled)
      ≤ inv'.incomingHtlcs.msat fun x => x.state = .settled) : PaidWhenSettled inv' := by
  intro hsettled
  have hpaid := h (hstatus ▸ hsettled)
  unfold HoldInvoice.msatIn at hpaid ⊢
  omega

theorem Alters.paidWhenSettled {a : Action} (hal : Alters a w k inv inv') (h : PaidWhenSettled inv) :
    PaidWhenSettled inv' := by
  cases hal with
  | bundle p hnone hpair => exact h
  | replay request existing ha hk hfind =>
    exact h.of_le rfl rfl (inv.msat_le_setHtlcCallback (· = .settled) _ _)
  | add request now ha hk hfind => exact h.of_le rfl rfl (HtlcSet.msat_le_add _ _ _)
  | resolve htlc request st res hmem hstate hrequest hres =>
    refine h.of_le rfl rfl (HoldInvoice.msat_le_setHtlcState st fun x hx hkey => ?_)
    -- the HTLC that is resolved has been accepted
    cases HtlcSet.eq_of_key hx hmem hkey
    exact decide_eq_false fun hsettled => nomatch hstate.symm.trans hsettled
  | fund => exact fun hsettled => nomatch hsettled
  | fail => exact fun hsettled => nomatch hsettled
  | settle hmay hfull hnone =>
    intro _
    have hcounted := HoldInvoice.msatIn_settled_of_none hnone
    show inv.amountMsat ≤ inv.msatIn .settled
    rw [hcounted]
    exact of_decide_eq_true hfull
  | reorder order ha => exact h.of_le rfl rfl (HtlcSet.msat_reorder _ _ _).ge

/-- **Every settled invoice has been paid**, in every run. -/
theorem paidWhenSettled (actions : List Action) :
    HoldsThroughout (fun _ => PaidWhenSettled) (runOf actions World.start) := by
  induction actions using List.reverseRecOn with
  | nil => exact .start
  | append_singleton past a ih =>
    rw [runOf_append]
    have hsurvives : Survives a (runOf past World.start) fun w =>
        True ∧ HoldsThroughout (fun _ => PaidWhenSettled) w := by
      refine Survives.trivial.holds (fun _ h => h.stored) (fun _ inv _ hfresh hsettled => ?_)
        fun _ _ _ _ _ _ hal h => hal.paidWhenSettled h
      rw [hfresh.status] at hsettled
      cases hsettled
    exact (step_invariant hsurvives ⟨trivial, ih⟩).2

end

/-! ## What has been collected -/

omit [Deployment] in
/-- The accepted HTLCs of the hold invoice for `payment_hash`, and the settled ones of the prepay invoice
attached to it. -/
def HoldInvoices.collected (t : HoldInvoices) (payment_hash : Bytes) : Int :=
  match t.get? (hex payment_hash) with
  | none => 0
  | some main =>
    main.msatIn .accepted +
      ((main.associatedInvoice.bind fun p => t.get? (hex p)).elim 0 (·.msatIn .settled))

omit [Deployment] in
theorem HoldInvoices.collected_of_prepay {t : HoldInvoices} {h p : Bytes} {main prepay : HoldInvoice}
    (hmain : t.get? (hex h) = some main) (hassoc : main.associatedInvoice = some p)
    (hprepay : t.get? (hex p) = some prepay) :
    t.collected h = main.msatIn .accepted + prepay.msatIn .settled := by
  unfold HoldInvoices.collected
  rw [hmain]
  dsimp only
  rw [hassoc, Option.bind_some, hprepay]
  rfl

/-- The funding transaction is made for no more than has been collected. -/
def Event.Covered : Event → Prop
  | .createFundingTx payment_hash swap holdInvoices =>
    ∀ n, swap.onchainAmount = some n → n * 1000 ≤ holdInvoices.collected payment_hash
  | _ => True

omit [Deployment] in
theorem Event.OfMove.covered {e : Event} (he : e.OfMove) : e.Covered := by
  cases e with
  | createFundingTx => exact he.elim
  | _ => trivial

/-! ## One request -/

section

variable {actions past : List Action} {a : Action} {w₀ w w₁ : World}

/-- The swap and its two invoices, as the `createswap` `a` makes them. -/
structure OneRequest (a : Action) (main prepay : HoldInvoice) (swap : SwapData) : Prop where
  pair : a.pair? = some (main.paymentHash, prepay.paymentHash)
  bills : Bills a main
  billsPrepay : Bills a prepay
  agreed : Agreed a swap
  paymentHash : swap.paymentHash = main.paymentHash

theorem Bills.mem_hashes {inv : HoldInvoice} (h : Bills a inv) : inv.paymentHash ∈ a.hashes := by
  cases h with
  | main env type pairId invoiceAmount claimPublicKey request amount =>
    rw [request]
    exact List.mem_cons_self
  | prepay env type pairId invoiceAmount preimageHash claimPublicKey request hash amount =>
    rw [request, hash]
    exact List.mem_cons_of_mem _ List.mem_cons_self

theorem Agreed.mem_hashes {swap : SwapData} (h : Agreed a swap) : swap.paymentHash ∈ a.hashes := by
  cases h with
  | normal env type pairId invoiceAmount claimPublicKey request =>
    rw [request]
    exact List.mem_cons_self
  | reverse env invoiceAmount refundPublicKey request isReverse lightningAmount paymentHash =>
    rw [request, paymentHash]
    exact List.mem_cons_self

/-- **The two invoices and the swap of a payment hash come from one request**, when the hashes are
distinct. -/
theorem DistinctHashes.oneRequest (hd : DistinctHashes actions) {main prepay : HoldInvoice}
    {swap : SwapData} (hpair : Paired actions main.paymentHash prepay.paymentHash)
    (hmain : BilledIn actions main) (hprepay : BilledIn actions prepay) (hswap : AgreedIn actions swap)
    (hhash : swap.paymentHash = main.paymentHash) : ∃ a ∈ actions, OneRequest a main prepay swap := by
  obtain ⟨a, ha, hpair⟩ := hpair
  obtain ⟨b, hb, hmain⟩ := hmain
  obtain ⟨c, hc, hprepay⟩ := hprepay
  obtain ⟨d, hd', hswap⟩ := hswap
  have hba : b = a := hd.unique hb ha hmain.mem_hashes (Action.main_mem hpair)
  have hca : c = a := hd.unique hc ha hprepay.mem_hashes (Action.prepay_mem hpair)
  have hda : d = a := hd.unique hd' ha (hhash ▸ hswap.mem_hashes) (Action.main_mem hpair)
  exact ⟨a, ha, hpair, hba ▸ hmain, hca ▸ hprepay, hda ▸ hswap, hhash⟩

/-- Its invoices ask for the amount of the swap. -/
theorem OneRequest.amounts (hd : DistinctHashes actions) (ha : a ∈ actions) {main prepay : HoldInvoice}
    {swap : SwapData} (h : OneRequest a main prepay swap) :
    swap.isReverse = false ∧ main.amountMsat + prepay.amountMsat = swap.lightningAmount * 1000 := by
  have hpair : Paired actions main.paymentHash prepay.paymentHash := ⟨a, ha, h.pair⟩
  have hne : main.paymentHash ≠ prepay.paymentHash := fun heq =>
    hd.prepay_ne_main hpair (heq ▸ hpair)
  cases h.agreed with
  | reverse env invoiceAmount refundPublicKey request =>
    have hnone := h.pair
    rw [request] at hnone
    cases hnone
  | normal env type pairId invoiceAmount claimPublicKey request isReverse lightningAmount =>
    have hhashes := h.pair
    rw [request] at hhashes
    have hprepay : sha256 env.urandomPreimage = prepay.paymentHash :=
      congrArg Prod.snd (Option.some.inj hhashes)
    refine ⟨isReverse, ?_⟩
    cases h.bills with
    | prepay env' type' pairId' invoiceAmount' preimageHash claimPublicKey' request' hash =>
      rw [request] at request'
      cases request'
      exact absurd (hash.trans hprepay) hne
    | main env' type' pairId' invoiceAmount' claimPublicKey' request' amount =>
      rw [request, h.paymentHash] at request'
      cases request'
      cases h.billsPrepay with
      | main env'' type'' pairId'' invoiceAmount'' claimPublicKey'' request'' =>
        rw [request, h.paymentHash] at request''
        simp only [Action.request.injEq, ClientRequest.createswap.injEq] at request''
        exact absurd request''.2.2.2.2.1 hne
      | prepay env'' type'' pairId'' invoiceAmount'' preimageHash'' claimPublicKey'' request'' hash''
          amount'' =>
        rw [request] at request''
        cases request''
        rw [amount, amount'', lightningAmount]
        ring

/-! ## The callback pass -/

/-- Two invariants of a step at once. -/
theorem Survives.and {I J : World → Prop} (hI : Survives a w₀ I) (hJ : Survives a w₀ J) :
    Survives a w₀ fun w => I w ∧ J w where
  move w w' hmove hw := ⟨hI.move w w' hmove hw.1, hJ.move w w' hmove hw.2⟩
  restart env view ha hview hw := ⟨hI.restart env view ha hview hw.1, hJ.restart env view ha hview hw.2⟩
  create w₁ w main ref hw₁ hdue hprepared hw href hnone :=
    ⟨hI.create w₁ w main ref hw₁.1 hdue hprepared hw.1 href hnone,
      hJ.create w₁ w main ref hw₁.2 hdue hprepared hw.2 href hnone⟩
  send w₁ w main ref tx hw₁ hdue hprepared hw href hnone :=
    ⟨hI.send w₁ w main ref tx hw₁.1 hdue hprepared hw.1 href hnone,
      hJ.send w₁ w main ref tx hw₁.2 hdue hprepared hw.2 href hnone⟩

omit [Deployment] in
theorem SwapsThroughout.and {P Q : SwapData → Prop} (hP : SwapsThroughout P w)
    (hQ : SwapsThroughout Q w) : SwapsThroughout (fun swap => P swap ∧ Q swap) w where
  table := hP.table
  watched := hP.watched
  live ref hlt := ⟨hP.live ref hlt, hQ.live ref hlt⟩
  stored d hd k swap hswap :=
    ⟨(hP.stored d hd k swap hswap).key, (hP.stored d hd k swap hswap).holds,
      (hQ.stored d hd k swap hswap).holds⟩
  views v hv d hd k swap hswap :=
    ⟨(hP.views v hv d hd k swap hswap).key, (hP.views v hv d hd k swap hswap).holds,
      (hQ.views v hv d hd k swap hswap).holds⟩

/-- What the pass knows of the invoices and the swaps. -/
structure Conserving (past : List Action) (a : Action) (w₀ w : World) : Prop where
  sending : Sending past (past ++ [a]) w
  prepays : Prepays (past ++ [a]) a w₀ w
  paid : HoldsThroughout (fun _ => PaidWhenSettled) w
  billed : HoldsThroughout (fun _ => BilledIn (past ++ [a])) w
  agreed : SwapsThroughout (fun swap => AgreedIn (past ++ [a]) swap ∧ PaysOutWithin swap) w

theorem survives_conserving {env : Env} (hd : DistinctHashes (past ++ [.callbacks env]))
    (hprov : Provenance past w₀) :
    Survives (.callbacks env) w₀ (Conserving past (.callbacks env) w₀) := by
  have hsending := survives_sending hd hprov
  have hprepays : Survives (.callbacks env) w₀ (Prepays (past ++ [.callbacks env]) _ w₀) :=
    survives_prepays hd (fun _ _ => nofun) fun h => h
  -- the pass issues no invoice and makes no swap
  have hnone : ∀ inv, ¬ FreshInvoice (.callbacks env) inv := by
    intro inv hfresh
    obtain ⟨_, _, hpair, -⟩ := hfresh.pair
    cases hpair
  have hnew : ∀ swap, ¬ NewSwap (.callbacks env) swap := by
    intro swap hnew
    obtain ⟨_, _, _, hr, -⟩ := hnew.locktime
    cases hr
  have hpaid := (hsending.and hprepays).holds (P := PaidWhenSettled) (fun _ h => h.stored)
    (fun _ inv _ hfresh => absurd hfresh (hnone inv)) fun _ _ _ _ _ _ hal h => hal.paidWhenSettled h
  have hbilled := hpaid.holds (P := BilledIn (past ++ [.callbacks env]))
    (fun inv => ofBill_billedIn _ inv _ ⟨rfl, rfl⟩) (fun _ inv _ hfresh => absurd hfresh (hnone inv))
    fun _ _ inv inv' _ _ hal => ofBill_billedIn _ inv inv' hal.sameBill
  have hdeal : OfDeal fun swap => AgreedIn (past ++ [.callbacks env]) swap ∧ PaysOutWithin swap :=
    fun _ _ hs h => ⟨h.1.congr hs, ofDeal_paysOutWithin _ _ hs h.2⟩
  have hagreed := hbilled.swaps
    (P := fun swap => AgreedIn (past ++ [.callbacks env]) swap ∧ PaysOutWithin swap)
    (fun swap h => absurd h (hnew swap)) hdeal.db (fun _ _ ha => nomatch ha)
    fun swap _ => hdeal swap _ ⟨rfl, rfl, rfl, rfl, rfl, rfl, rfl, rfl, rfl⟩
  exact hagreed.congr fun w => ⟨fun h => ⟨h.1.1.1.1, h.1.1.1.2, h.1.1.2, h.1.2, h.2⟩,
    fun h => ⟨⟨⟨⟨h.sending, h.prepays⟩, h.paid⟩, h.billed⟩, h.agreed⟩⟩

/-- **The funding transaction that the pass makes is covered.** -/
theorem Conserving.covered {env : Env} {main : HoldInvoice} {ref : SwapRef}
    (hd : DistinctHashes (past ++ [.callbacks env])) (hc : NoClaims past)
    (hw₀ : w₀ = runOf past World.start) (hw₁ : Conserving past (.callbacks env) w₀ w₁)
    (hdue : Due w₀ w₁ main) (hprepared : Prepared (.callbacks env) w₀ w₁ w main)
    (hw : Conserving past (.callbacks env) w₀ w)
    (href : w.swaps.get? (hex main.paymentHash) = some ref) :
    (Event.createFundingTx (w.heap ref).paymentHash (w.heap ref) w.holdInvoices).Covered := by
  intro n hn
  obtain ⟨p, hassoc, hpair⟩ := hw₁.sending.attached hd hdue hprepared href
  obtain ⟨hlt, hkey⟩ := hw.sending.prov.swaps.table _ ref href
  have hhash : (w.heap ref).paymentHash = main.paymentHash := (hex_inj.mp hkey).symm
  -- the main invoice has not been touched in this pass
  have hmain₀ : w₀.holdInvoices.get? (hex main.paymentHash) = some main := by
    rw [← hw₁.prepays.main _ p hpair ⟨env, rfl⟩]
    exact hdue.stored
  have hmain : w.holdInvoices.get? (hex main.paymentHash) = some main := by
    rw [hw.prepays.main _ p hpair ⟨env, rfl⟩]
    exact hmain₀
  have haccepted : main.amountMsat ≤ main.msatIn .accepted := by
    subst hw₀
    have hpast : Paired past main.paymentHash p := by
      rcases hpair.of_append with hpair | hnew
      · exact hpair
      · cases hnew
    have hfull := (reachable_runOf past).invoiceOk hmain₀
    exact ((mainsUnsettled past hd.init hc).live _ main hmain₀).accepted hpast (hfull.funded hdue.funded)
  -- the prepay invoice has been settled in it
  obtain ⟨stored, hstored, hsettled⟩ := hprepared.settled p hassoc w.doc (.inr (.inr rfl))
  have hget : (w.holdInvoices.get? (hex p)).map HoldInvoice.stored = some stored :=
    (HoldInvoices.get?_stored w.holdInvoices (hex p)).symm.trans hstored
  obtain ⟨prepay, hprepay, rfl⟩ := Option.map_eq_some_iff.mp hget
  have hpaid : prepay.amountMsat ≤ prepay.msatIn .settled := hw.paid.live _ prepay hprepay hsettled
  have hp : prepay.paymentHash = p := hex_inj.mp (HoldInvoices.hex_paymentHash hprepay)
  obtain ⟨hagreed, hwithin⟩ := hw.agreed.live ref hlt
  obtain ⟨b, hb, hrequest⟩ := hd.oneRequest (hp ▸ hpair) (hw.billed.live _ main hmain)
    (hw.billed.live _ prepay hprepay) hagreed hhash
  obtain ⟨hnormal, hsum⟩ := hrequest.amounts hd hb
  have hle : n ≤ (w.heap ref).lightningAmount := hwithin hnormal n hn
  rw [hhash, HoldInvoices.collected_of_prepay hmain hassoc hprepay]
  calc n * 1000 ≤ (w.heap ref).lightningAmount * 1000 := by omega
    _ = main.amountMsat + prepay.amountMsat := hsum.symm
    _ ≤ main.msatIn .accepted + prepay.msatIn .settled := Int.add_le_add haccepted hpaid

theorem BilledIn.append {inv : HoldInvoice} (h : BilledIn past inv) : BilledIn (past ++ [a]) inv := by
  obtain ⟨b, hb, hbills⟩ := h
  exact ⟨b, List.mem_append_left _ hb, hbills⟩

theorem covered (hfee : 0 ≤ config.swapserverFeeMillionths) (actions : List Action)
    (hd : DistinctHashes actions) (hc : NoClaims actions) :
    (runOf actions World.start).Says Event.Covered := by
  refine runOf_induction (I := fun past w => NoClaims past → w.Says Event.Covered)
    (fun _ => .start) (fun past a w hw hd ih hc => ?_) actions hd hc
  by_cases ha : ∃ env, a = .callbacks env
  · obtain ⟨env, rfl⟩ := ha
    have hprov : Provenance past w := hw ▸ provenance past
    have hsending : Sending past past w := hw ▸ sending past hd.init
    have hpaid : HoldsThroughout (fun _ => PaidWhenSettled) w := hw ▸ paidWhenSettled past
    have hbilled : HoldsThroughout (fun _ => BilledIn past) w := hw ▸ billed_throughout past
    have hagreed : SwapsThroughout (AgreedIn past) w := hw ▸ agreed_throughout past
    have hwithin : SwapsThroughout PaysOutWithin w := hw ▸ paysOutWithin_throughout hfee past hc.init
    have hstart : Conserving past (.callbacks env) w w :=
      ⟨hsending.append hd, prepays_start hprov.append, hpaid, hbilled.mono fun _ _ h => h.append,
        (hagreed.and hwithin).mono fun _ h => ⟨h.1.append, h.2⟩⟩
    have hsurvives := (survives_conserving hd hprov).saying (Q := Event.Covered)
      (fun _ he => he.covered) (fun w₁ w' main ref hw₁ hdue hprepared hw' href =>
        hw₁.covered hd hc.init hw hdue hprepared hw' href) fun _ _ _ => trivial
    exact (step_invariant hsurvives ⟨hstart, ih hc.init⟩).2
  · have hsurvives : Survives a w fun w => True ∧ w.Says Event.Covered :=
      Survives.trivial.saying (fun _ he => he.covered)
        (fun _ _ _ _ _ _ hprepared _ _ => absurd hprepared.pass ha) fun _ _ _ => trivial
    exact (step_invariant hsurvives ⟨trivial, ih hc.init⟩).2

/-- **What a swap pays out is paid in**: whenever the funding transaction of a swap is made, the accepted
HTLCs of its hold invoice and the settled ones of the prepay invoice make up its amount, in every run of any
steps but those of the chain monitor in which no payment hash is used again. -/
theorem funding_covered (hfee : 0 ≤ config.swapserverFeeMillionths) (actions : List Action)
    (hd : DistinctHashes actions) (hc : NoClaims actions) (payment_hash : Bytes) (swap : SwapData)
    (holdInvoices : HoldInvoices) (hmade : Event.createFundingTx payment_hash swap holdInvoices
      ∈ (runOf actions World.start).trace) (n : Int) (hn : swap.onchainAmount = some n) :
    n * 1000 ≤ holdInvoices.collected payment_hash :=
  (covered hfee actions hd hc).log _ hmade n hn

/-- **A settled invoice has been paid in full**, in every run of any steps, in whatever document a restart or
a crash could find: its settled HTLCs make up its amount. -/
theorem settled_in_full (actions : List Action) (d : Doc)
    (hd : (runOf actions World.start).Image d ∨
      ∃ v ∈ (runOf actions World.start).views, v.db.disk = some d)
    (k : Hex) (inv : HoldInvoice) (hinv : d.holdInvoices.get? k = some inv)
    (hsettled : inv.fundingStatus = .settled) : inv.amountMsat ≤ inv.msatIn .settled := by
  have hpaid := paidWhenSettled actions
  rcases hd with (hdisk | hqueued | rfl) | ⟨v, hv, hdisk⟩
  · exact hpaid.stored d (.inl hdisk) k inv hinv hsettled
  · exact hpaid.stored d (.inr hqueued) k inv hinv hsettled
  · have hget : ((runOf actions World.start).holdInvoices.get? k).map HoldInvoice.stored = some inv :=
      (HoldInvoices.get?_stored _ k).symm.trans hinv
    obtain ⟨live, hlive, rfl⟩ := Option.map_eq_some_iff.mp hget
    exact (hpaid.live k live hlive).stored hsettled
  · exact hpaid.views v hv d hdisk k inv hinv hsettled

/-- **The two invoices of a swap ask for its lightning amount**, in every run of any steps in which no payment
hash is used again: what is stored under the payment hash, and the invoice attached to it, come from one
`createswap`, the only request of the run for this payment hash. -/
theorem invoices_ask_lightning_amount (actions : List Action) (hd : DistinctHashes actions) (h p : Bytes)
    (main prepay : HoldInvoice) (swap : SwapData)
    (hmain : (runOf actions World.start).getHoldInvoice h = some main)
    (hassoc : main.associatedInvoice = some p)
    (hprepay : (runOf actions World.start).getHoldInvoice p = some prepay)
    (hswap : (runOf actions World.start).swap? (hex h) = some swap) :
    (∃ a ∈ actions, a.pair? = some (h, p) ∧ OneRequest a main prepay swap ∧
      ∀ b ∈ actions, h ∈ b.hashes → b = a) ∧
    swap.isReverse = false ∧ main.amountMsat + prepay.amountMsat = swap.lightningAmount * 1000 := by
  obtain ⟨ref, href, rfl⟩ := Option.map_eq_some_iff.mp hswap
  have hprov := provenance actions
  have hbilled := billed_throughout actions
  have hmainHash : main.paymentHash = h := hex_inj.mp (HoldInvoices.hex_paymentHash hmain)
  have hprepayHash : prepay.paymentHash = p := hex_inj.mp (HoldInvoices.hex_paymentHash hprepay)
  subst hmainHash hprepayHash
  have hpair : Paired actions main.paymentHash prepay.paymentHash :=
    (hprov.holds.live _ main hmain).paired _ hassoc
  obtain ⟨hlt, hkey⟩ := hprov.swaps.table _ ref href
  obtain ⟨a, ha, hrequest⟩ := hd.oneRequest hpair (hbilled.live _ main hmain)
    (hbilled.live _ prepay hprepay) ((agreed_throughout actions).live ref hlt) (hex_inj.mp hkey).symm
  refine ⟨⟨a, ha, hrequest.pair, hrequest, fun b hb hmem => ?_⟩, hrequest.amounts hd ha⟩
  exact hd.unique hb ha hmem (Action.main_mem hrequest.pair)

end

end

/-- The funding transaction an event reports, with its payment hash, its swap and the hold invoices. -/
def Event.funding? : Event → Option (Bytes × SwapData × HoldInvoices)
  | .createFundingTx payment_hash swap holdInvoices => some (payment_hash, swap, holdInvoices)
  | _ => none

theorem Event.eq_of_funding? {e : Event} {f : Bytes × SwapData × HoldInvoices} (h : e.funding? = some f) :
    e = .createFundingTx f.1 f.2.1 f.2.2 := by
  cases e with
  | createFundingTx => cases h; rfl
  | _ => cases h

section Sample

open Sample

attribute [local instance] Sample.deployment

/-- A swap of 50000 sat, funded out of the two invoices its client has paid. -/
theorem funding_covered_paid : ∃ swap holdInvoices n,
    Event.createFundingTx paymentHash swap holdInvoices
      ∈ (runOf (paidRun ++ [.callbacks Sample.env]) World.start).trace ∧
    swap.onchainAmount = some n ∧ n * 1000 ≤ holdInvoices.collected paymentHash := by
  have hmade : ((runOf (paidRun ++ [.callbacks Sample.env]) World.start).trace.any fun e =>
      e.funding?.any fun f => f.1 = paymentHash ∧ f.2.1.onchainAmount.isSome) = true := by
    decide +kernel
  obtain ⟨e, hmem, he⟩ := List.any_eq_true.mp hmade
  obtain ⟨f, hf, hcond⟩ := (Option.any_eq_true _ _).mp he
  obtain ⟨hhash, hsome⟩ := of_decide_eq_true hcond
  obtain ⟨n, hn⟩ := Option.isSome_iff_exists.mp hsome
  rw [Event.eq_of_funding? hf, hhash] at hmem
  exact ⟨f.2.1, f.2.2, n, hmem, hn, funding_covered (by decide) _ (by decide +kernel) noClaims_paidRun
    paymentHash f.2.1 f.2.2 hmem n hn⟩

/-- The prepay invoice, after the pass that funds the swap. -/
theorem settled_in_full_prepay : ∃ inv,
    (runOf (paidRun ++ [.callbacks Sample.env]) World.start).doc.holdInvoices.get? (hex prepayHash)
      = some inv ∧ inv.amountMsat ≤ inv.msatIn .settled := by
  have hsettled : ((runOf (paidRun ++ [.callbacks Sample.env]) World.start).doc.holdInvoices.get?
      (hex prepayHash)).any (fun inv => inv.fundingStatus = .settled) = true := by decide +kernel
  obtain ⟨inv, hinv, hstatus⟩ := (Option.any_eq_true _ _).mp hsettled
  exact ⟨inv, hinv, settled_in_full (paidRun ++ [.callbacks Sample.env]) _ (.inl (.inr (.inr rfl)))
    (hex prepayHash) inv hinv (of_decide_eq_true hstatus)⟩

/-- A swap whose invoices have been paid. -/
theorem invoices_ask_lightning_amount_paid : ∃ main prepay swap,
    (runOf paidRun World.start).getHoldInvoice paymentHash = some main ∧
      (runOf paidRun World.start).getHoldInvoice prepayHash = some prepay ∧
      (runOf paidRun World.start).swap? (hex paymentHash) = some swap ∧
      main.amountMsat + prepay.amountMsat = swap.lightningAmount * 1000 := by
  have hattached : ((runOf paidRun World.start).getHoldInvoice paymentHash).any
      (fun main => main.associatedInvoice = some prepayHash) = true := by decide +kernel
  have hprepay : ((runOf paidRun World.start).getHoldInvoice prepayHash).isSome = true := by
    decide +kernel
  have hswap : ((runOf paidRun World.start).swap? (hex paymentHash)).isSome = true := by decide +kernel
  obtain ⟨main, hmain, hassoc⟩ := (Option.any_eq_true _ _).mp hattached
  obtain ⟨prepay, hprepay⟩ := Option.isSome_iff_exists.mp hprepay
  obtain ⟨swap, hswap⟩ := Option.isSome_iff_exists.mp hswap
  exact ⟨main, prepay, swap, hmain, hprepay, hswap, (invoices_ask_lightning_amount paidRun
    (by decide +kernel) paymentHash prepayHash main prepay swap hmain (of_decide_eq_true hassoc) hprepay
    hswap).2.2⟩

/-- A second `createswap` for the same payment hash, with a new prepay invoice. -/
def reusingEnv : Env := { Sample.env with urandomPreimage := otherPreimage }

/-- The client asks for 50000 sat, then for 30000 sat under the same payment hash, and pays the invoices of
the second request. -/
def reusingRun : List Action :=
  boot ++ [.request Sample.env (createswap 50000), .request reusingEnv (createswap 30000),
    deliver 1 paymentHash 29728000, deliver 2 otherHash 272000, .callbacks Sample.env]

/-- The hold invoice is that of the second request, the swap that of the first: the plugin funds 50000 sat,
less the fees, with 30000 sat paid in. -/
theorem funding_not_covered : ∃ actions payment_hash swap holdInvoices n, NoClaims actions ∧
    0 ≤ config.swapserverFeeMillionths ∧ Event.createFundingTx payment_hash swap holdInvoices
      ∈ (runOf actions World.start).trace ∧
    swap.onchainAmount = some n ∧ ¬ n * 1000 ≤ holdInvoices.collected payment_hash := by
  have hmade : ((runOf reusingRun World.start).trace.any fun e => e.funding?.any fun f =>
      f.2.1.onchainAmount.any fun n => ¬ n * 1000 ≤ f.2.2.collected f.1) = true := by
    decide +kernel
  obtain ⟨e, hmem, he⟩ := List.any_eq_true.mp hmade
  obtain ⟨f, hf, hany⟩ := (Option.any_eq_true _ _).mp he
  obtain ⟨n, hn, hless⟩ := (Option.any_eq_true _ _).mp hany
  rw [Event.eq_of_funding? hf] at hmem
  refine ⟨reusingRun, f.1, f.2.1, f.2.2, n, ?_, by decide, hmem, hn, of_decide_eq_true hless⟩
  rintro a ha env address rfl
  simp [reusingRun, boot, deliver] at ha

end Sample

end SubswapProvider
