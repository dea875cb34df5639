import SubswapProvider.Lockup
import SubswapProvider.Saying

/-!
# Where the money goes

A swap is agreed on once, in the request that creates it: over which hash, with whose keys, and to which
address of the wallet its output comes back (`Agreed`). None of this is ever assigned again, so every copy
of a swap, in memory or in the datastore, is one that was agreed on in the run (`agreed_throughout`). So a
funding transaction pays the lockup address of such a swap, and otherwise what the wallet takes back as its
change (`funding_pays_lockup`).
-/

namespace SubswapProvider

open Deployment Effect

section

variable [Deployment]

/-! ## What is agreed on -/

/-- The script of a swap, with the key that claims and the key that refunds. -/
structure Locks (swap : SwapData) (claimKey refundKey : Bytes) : Prop where
  redeemScript : swap.redeemScript =
    swapScript (ripemd swap.paymentHash) claimKey swap.locktime refundKey
  lockupAddress : swap.lockupAddress = scriptToP2wsh swap.redeemScript

omit [Deployment] in
/-- What the plugin brings into a swap. -/
structure OwnSide (env : Env) (swap : SwapData) : Prop where
  privkey : swap.privkey = env.urandomPrivkey
  receiveAddress : env.newaddr = some swap.receiveAddress
  locktime : ∃ height, env.localHeight = some height ∧ swap.locktime = height + LOCKTIME_DELTA_REFUND

/-- A swap as the step `a` creates it. -/
inductive Agreed (a : Action) (swap : SwapData) : Prop
  | normal (env : Env) (type pairId : String) (invoiceAmount : Int) (claimPublicKey : Bytes)
      (request : a = .request env
        (.createswap type pairId invoiceAmount swap.paymentHash claimPublicKey))
      (isReverse : swap.isReverse = false) (lightningAmount : swap.lightningAmount = invoiceAmount)
      (locks : Locks swap claimPublicKey (publicKey swap.privkey)) (own : OwnSide env swap)
  | reverse (env : Env) (invoiceAmount : Int) (refundPublicKey : Bytes)
      (request : a = .request env (.createnormalswap invoiceAmount refundPublicKey))
      (isReverse : swap.isReverse = true) (lightningAmount : swap.lightningAmount = invoiceAmount)
      (paymentHash : swap.paymentHash = sha256 env.urandomPreimage)
      (locks : Locks swap (publicKey swap.privkey) refundPublicKey) (own : OwnSide env swap)

/-- It comes from one of the requests. -/
def AgreedIn (actions : List Action) (swap : SwapData) : Prop := ∃ a ∈ actions, Agreed a swap

omit [Deployment] in
/-- The parts of a swap that are never assigned. -/
structure SameDeal (swap swap' : SwapData) : Prop where
  isReverse : swap'.isReverse = swap.isReverse
  locktime : swap'.locktime = swap.locktime
  onchainAmount : swap'.onchainAmount = swap.onchainAmount
  lightningAmount : swap'.lightningAmount = swap.lightningAmount
  redeemScript : swap'.redeemScript = swap.redeemScript
  privkey : swap'.privkey = swap.privkey
  lockupAddress : swap'.lockupAddress = swap.lockupAddress
  receiveAddress : swap'.receiveAddress = swap.receiveAddress
  paymentHash : swap'.paymentHash = swap.paymentHash

omit [Deployment] in
theorem SameDeal.refl (swap : SwapData) : SameDeal swap swap :=
  ⟨rfl, rfl, rfl, rfl, rfl, rfl, rfl, rfl, rfl⟩

omit [Deployment] in
theorem SameDeal.trans {swap swap' swap'' : SwapData} (h : SameDeal swap swap')
    (h' : SameDeal swap' swap'') : SameDeal swap swap'' :=
  ⟨h'.isReverse.trans h.isReverse, h'.locktime.trans h.locktime,
    h'.onchainAmount.trans h.onchainAmount, h'.lightningAmount.trans h.lightningAmount,
    h'.redeemScript.trans h.redeemScript, h'.privkey.trans h.privkey, h'.lockupAddress.trans h.lockupAddress,
    h'.receiveAddress.trans h.receiveAddress, h'.paymentHash.trans h.paymentHash⟩

omit [Deployment] in
theorem Assignment.sameDeal {now : SwapData} {f : SwapData → SwapData} (hf : Assignment now f)
    (swap : SwapData) : SameDeal swap (f swap) := by
  cases hf <;> exact ⟨rfl, rfl, rfl, rfl, rfl, rfl, rfl, rfl, rfl⟩

section

variable {a : Action} {past actions : List Action} {swap swap' : SwapData}

theorem Locks.congr {claimKey refundKey : Bytes} (h : Locks swap claimKey refundKey)
    (hs : SameDeal swap swap') : Locks swap' claimKey refundKey where
  redeemScript := by rw [hs.redeemScript, hs.paymentHash, hs.locktime, h.redeemScript]
  lockupAddress := by rw [hs.lockupAddress, hs.redeemScript, h.lockupAddress]

omit [Deployment] in
theorem OwnSide.congr {env : Env} (h : OwnSide env swap) (hs : SameDeal swap swap') :
    OwnSide env swap' where
  privkey := hs.privkey.trans h.privkey
  receiveAddress := by rw [hs.receiveAddress, h.receiveAddress]
  locktime := by rw [hs.locktime]; exact h.locktime

theorem Agreed.congr (h : Agreed a swap) (hs : SameDeal swap swap') : Agreed a swap' := by
  cases h with
  | normal env type pairId invoiceAmount claimPublicKey request isReverse amount locks own =>
    refine .normal env type pairId invoiceAmount claimPublicKey ?_ (hs.isReverse.trans isReverse)
      (hs.lightningAmount.trans amount) ?_ (own.congr hs)
    · rw [hs.paymentHash]
      exact request
    · rw [hs.privkey]
      exact locks.congr hs
  | reverse env invoiceAmount refundPublicKey request isReverse amount paymentHash locks own =>
    refine .reverse env invoiceAmount refundPublicKey request (hs.isReverse.trans isReverse)
      (hs.lightningAmount.trans amount) (hs.paymentHash.trans paymentHash) ?_ (own.congr hs)
    rw [hs.privkey]
    exact locks.congr hs

theorem AgreedIn.congr (h : AgreedIn actions swap) (hs : SameDeal swap swap') :
    AgreedIn actions swap' := by
  obtain ⟨a, ha, hagreed⟩ := h
  exact ⟨a, ha, hagreed.congr hs⟩

theorem AgreedIn.append (h : AgreedIn past swap) : AgreedIn (past ++ [a]) swap := by
  obtain ⟨b, hb, hagreed⟩ := h
  exact ⟨b, List.mem_append_left _ hb, hagreed⟩

theorem AgreedIn.new (h : Agreed a swap) : AgreedIn (past ++ [a]) swap :=
  ⟨a, List.mem_append_right _ (List.mem_singleton_self a), h⟩

end

/-! ## The requests that create swaps

Nothing in them but the new object brings in a swap, so an invariant of every swap is kept when it holds of
the new one. -/

section Creating

variable {P : SwapData → Prop} {env : Env}

omit [Deployment] in
theorem SwapsThroughout.allocSwap {w : World} {swap : SwapData} (h : SwapsThroughout P w) (hP : P swap) :
    SwapsThroughout P (w.allocSwap swap) := by
  refine ⟨fun k ref href => ?_, fun address ref href => ?_, fun ref hlt => ?_, h.stored, h.views⟩
  · obtain ⟨hlt, hk⟩ := h.table k ref href
    refine ⟨Nat.lt_succ_of_lt hlt, ?_⟩
    show k = hex (Function.update w.heap w.nextRef swap ref).paymentHash
    rw [Function.update_of_ne (Nat.ne_of_lt hlt)]
    exact hk
  · exact Nat.lt_succ_of_lt (h.watched address ref href)
  · show P (Function.update w.heap w.nextRef swap ref)
    by_cases hr : ref = w.nextRef
    · subst hr
      rw [Function.update_self]
      exact hP
    · rw [Function.update_of_ne hr]
      exact h.live ref (Nat.lt_of_le_of_ne (Nat.le_of_lt_succ hlt) hr)

/-- `P` speaks of the deal only. -/
def OfDeal (P : SwapData → Prop) : Prop := ∀ swap swap', SameDeal swap swap' → P swap → P swap'

omit [Deployment] in
theorem OfDeal.db (hP : OfDeal P) (swap : SwapData) (h : P swap) : P { swap with db := true } :=
  hP swap _ ⟨rfl, rfl, rfl, rfl, rfl, rfl, rfl, rfl, rfl⟩ h

/-- A move of a step that creates no swap. -/
theorem SwapsThroughout.moveOn {a : Action} {w₀ w w' : World} (h : SwapsThroughout P w) (hP : OfDeal P)
    (ha : ∀ env r, a ≠ .request env r) (hmove : Move a w₀ w w') : SwapsThroughout P w' := by
  apply h.move hmove _ hP.db
  · intro _ _ _ now f hf swap
    exact hP swap (f swap) (hf.sameDeal swap)
  · intro swap hnew
    obtain ⟨env, r, height, hr, -⟩ := hnew.locktime
    exact absurd hr (ha env r)

theorem SwapsThroughout.setSwap {w : World} {ref : SwapRef} (h : SwapsThroughout P w) (hP : OfDeal P)
    (env : Env) (hlt : ref < w.nextRef)
    (hnew : w.swaps.contains (hex (w.heap ref).paymentHash) = false) :
    SwapsThroughout P (w.setSwap (hex (w.heap ref).paymentHash) ref) := by
  -- there is a move that stores an object that is watched
  let w₁ : World :=
    { w with lnwatcherCallbacks := w.lnwatcherCallbacks.set (w.heap ref).lockupAddress ref }
  have hwatch : SwapsThroughout P w₁ := by
    refine ⟨h.table, fun address ref' href => ?_, h.live, h.stored, h.views⟩
    have hget := (Dict.get?_set _ _ _ _).symm.trans href
    split at hget
    · cases hget
      exact hlt
    · exact h.watched address ref' hget
  have htracks : w₁.Tracks ref := .inr ⟨(w.heap ref).lockupAddress, Dict.get?_set_self _ _ _⟩
  have hmove : Move (.claim env (w.heap ref).lockupAddress) w₁ w₁
      (w₁.setSwap (hex (w.heap ref).paymentHash) ref) :=
    Move.setSwap w₁ ref hnew (.inr ⟨htracks, _, _, rfl⟩)
  have hset := hwatch.moveOn hP (fun _ _ => by simp) hmove
  exact ⟨hset.table, h.watched, hset.live, hset.stored, hset.views⟩

section

variable (hP : OfDeal P)

include hP

/-- What is no request creates no swap, whoever runs it. -/
theorem throughout_moves {α : Type} {p : PyM α} (h : Moves (Move .initSwapManager World.start) p) :
    Keeps (SwapsThroughout P) p :=
  h.keeps fun _ _ hmove hs => hs.moveOn hP (fun _ _ => by simp) hmove

theorem throughout_dbWrite : Keeps (SwapsThroughout P) (dbWrite env) :=
  throughout_moves hP (moves_dbWrite env)

theorem throughout_createPaymentInfo : Keeps (SwapsThroughout P) (createPaymentInfo env) :=
  throughout_moves hP (moves_createPaymentInfo env).moves

theorem throughout_saveHoldInvoice (invoice : HoldInvoice) :
    Keeps (SwapsThroughout P) (saveHoldInvoice env invoice) :=
  Keeps.bind (Keeps.modify fun w hw => hw.tables (.setHoldInvoice w invoice) (by
    intro v hv
    exact .inl ((Recorded.setHoldInvoice w invoice).views ▸ hv))) fun _ => throughout_dbWrite hP

theorem throughout_b11invoiceFromHash (payment_hash : Bytes) (amount_msat : Int) (message : String)
    (expiry : Nat) : Keeps (SwapsThroughout P)
      (b11invoiceFromHash env payment_hash amount_msat message expiry) := by
  unfold b11invoiceFromHash
  refine Keeps.bind (keeps_pyAssert _) fun _ => Keeps.bind (Keeps.ite Keeps.pure Keeps.throw) fun _ =>
    Keeps.bind (keeps_orRaise _ _) fun _ => Keeps.bind (Keeps.ite Keeps.throw Keeps.pure) fun _ =>
    Keeps.bind (keeps_orRaise _ _) fun _ => Keeps.bind (throughout_saveHoldInvoice hP _) fun _ =>
    Keeps.pure

theorem throughout_bundlePayments (swap_invoice prepay_invoice : Bytes) :
    Keeps (SwapsThroughout P) (bundlePayments env swap_invoice prepay_invoice) := by
  unfold bundlePayments
  refine Keeps.get fun w => ?_
  split
  · exact Keeps.throw
  · refine Keeps.bind (Keeps.modify fun w hw => hw.tables (.popHoldInvoice w _) fun v hv => ?_) fun _ =>
      Keeps.bind (Keeps.ite Keeps.throw Keeps.pure) fun _ => throughout_saveHoldInvoice hP _
    exact .inl ((Recorded.popHoldInvoice w _).views ▸ hv)

/-- A new object is stored, where its hash is free. -/
theorem triple_storeNew (env : Env) {swap : SwapData} (hswap : P swap) {w : World} (hw : SwapsThroughout P w) :
    Triple (· = w.allocSwap swap) (addOrReindexSwap w.nextRef)
      (fun _ s => SwapsThroughout P s ∧ w.nextRef < s.nextRef)
      (fun _ s => SwapsThroughout P s ∧ w.nextRef < s.nextRef) := by
  have halloc := hw.allocSwap hswap
  unfold addOrReindexSwap
  refine Triple.getBind fun s hs => ?_
  subst hs
  dsimp only
  split
  · exact Triple.pure fun s hs => hs ▸ ⟨halloc, Nat.lt_succ_self _⟩
  · next hnew =>
    refine Triple.modify fun s hs => ?_
    subst hs
    exact ⟨halloc.setSwap hP env (Nat.lt_succ_self _) (by simpa using hnew), Nat.lt_succ_self _⟩

end

omit [Deployment] in
theorem throughout_registerAddress (address : Address) :
    Keeps (SwapsThroughout P) (registerAddress env address) := by
  unfold registerAddress
  exact Keeps.ite Keeps.pure Keeps.throw

omit [Deployment] in
theorem throughout_watch {ref : SwapRef} :
    Triple (fun s => SwapsThroughout P s ∧ ref < s.nextRef) (addLnwatcherCallback ref)
      (fun _ => SwapsThroughout P) fun _ => SwapsThroughout P := by
  refine Triple.modify fun s hs => ?_
  obtain ⟨h, hlt⟩ := hs
  refine ⟨h.table, fun address ref' href => ?_, h.live, h.stored, h.views⟩
  have hget := (Dict.get?_set _ _ _ _).symm.trans href
  split at hget
  · cases hget
    exact hlt
  · exact h.watched address ref' hget

variable {a : Action}

/-- The swap pays out what fees in `F` leave of it. -/
def Priced (F : Pairs → Prop) (swap : SwapData) : Prop :=
  swap.isReverse = false →
    ∃ p, F p ∧ swap.onchainAmount = p.recvAmount swap.lightningAmount true

/-- `create_normal_swap`, whether it returns or not. -/
theorem throughout_createNormalSwap {F : Pairs → Prop} (hP : OfDeal P)
    (hnew : ∀ swap, Agreed a swap → Priced F swap → P swap)
    {type pairId : String} {invoiceAmount : Int} {preimageHash claimPublicKey : Bytes}
    (ha : a = .request env (.createswap type pairId invoiceAmount preimageHash claimPublicKey)) :
    Triple (fun s => SwapsThroughout P s ∧ ∀ p, s.pairs = some p → F p)
      (createNormalSwap env invoiceAmount preimageHash claimPublicKey)
      (fun _ => SwapsThroughout P) (fun _ => SwapsThroughout P) := by
  unfold createNormalSwap
  refine triple_pyAssert (fun _ hs => hs.1) fun _ =>
    triple_orRaise (fun _ hs => hs.1) fun height hheight =>
    triple_getRecvAmount (fun _ hs => hs.1) fun p => ?_
  refine Triple.pre (R := fun s => F p ∧ SwapsThroughout P s) (Triple.of_const_and fun hF => ?_)
    fun s hs => ⟨hs.1.2 p hs.2, hs.1.1⟩
  refine Keeps.bind ?_ fun created => Keeps.bind (Keeps.modify fun s hs => ?_) fun _ => Keeps.pure
  · unfold addNormalSwap
    refine Keeps.bind (throughout_b11invoiceFromHash hP _ _ _ _) fun invoice =>
      Keeps.bind (throughout_createPaymentInfo hP) fun prepay_hash =>
      Keeps.bind (throughout_b11invoiceFromHash hP _ _ _ _) fun prepay_invoice =>
      Keeps.bind (throughout_bundlePayments hP _ _) fun _ =>
      triple_orRaise (fun _ hs => hs) fun receive_address hreceive => Keeps.getBind fun s hs => ?_
    refine Triple.modifyBind (R := (· = s.allocSwap _)) (fun _ h => congrArg (World.allocSwap _) h) ?_
    refine Triple.bind ((triple_storeNew hP env (hnew _ ?_ ?_) hs).conseq (fun _ h => h)
      (fun _ _ h => h) fun _ _ h => h.1) fun _ => ?_
    · exact .normal env type pairId invoiceAmount claimPublicKey ha rfl rfl ⟨rfl, rfl⟩
        ⟨rfl, hreceive, height, hheight, rfl⟩
    · exact fun _ => ⟨p, hF, rfl⟩
    have hregister : Keeps (fun s' => SwapsThroughout P s' ∧ s.nextRef < s'.nextRef)
        (registerAddress env (scriptToP2wsh (swapScript (ripemd preimageHash) claimPublicKey
          (height + LOCKTIME_DELTA_REFUND) (publicKey env.urandomPrivkey)))) :=
      Keeps.ite Keeps.pure Keeps.throw
    exact Triple.bind (hregister.conseq (fun _ h => h) (fun _ _ h => h) fun _ _ h => h.1) fun _ =>
      Triple.bind throughout_watch fun _ => Keeps.pure
  · exact ⟨hs.table, hs.watched, hs.live, hs.stored, hs.views⟩

/-- `create_reverse_swap`, whether it returns or not. -/
theorem throughout_createReverseSwap {F : Pairs → Prop} (hP : OfDeal P)
    (hnew : ∀ swap, Agreed a swap → Priced F swap → P swap)
    {invoiceAmount : Int} {refundPublicKey : Bytes}
    (ha : a = .request env (.createnormalswap invoiceAmount refundPublicKey)) :
    Keeps (SwapsThroughout P) (createReverseSwap env invoiceAmount refundPublicKey) := by
  unfold createReverseSwap
  refine triple_orRaise (fun _ hs => hs) fun height hheight => ?_
  refine Keeps.bind (Keeps.get fun w => ?_) fun onchain_amount_sat => ?_
  · refine Keeps.ite Keeps.pure ?_
    split
    · exact Keeps.throw
    · exact Keeps.pure
  unfold addReverseSwap
  refine triple_orRaise (fun _ hs => hs) fun receive_address hreceive =>
    Keeps.bind (throughout_registerAddress _) fun _ => Keeps.getBind fun s hs => ?_
  refine Triple.modifyBind (R := (· = s.allocSwap _)) (fun _ h => congrArg (World.allocSwap _) h) ?_
  refine Triple.bind ((triple_storeNew hP env (hnew _ ?_ ?_) hs).conseq (fun _ h => h) (fun _ _ h => h)
    fun _ _ h => h.1) fun _ => Triple.bind throughout_watch fun _ => Keeps.pure
  · exact .reverse env invoiceAmount refundPublicKey ha rfl rfl rfl ⟨rfl, rfl⟩
      ⟨rfl, hreceive, height, hheight, rfl⟩
  · exact fun hno => nomatch hno

theorem throughout_handleRequest {F : Pairs → Prop} (hP : OfDeal P)
    (hnew : ∀ swap, Agreed a swap → Priced F swap → P swap) {r : ClientRequest}
    (ha : a = .request env r) :
    Triple (fun s => SwapsThroughout P s ∧ ∀ p, s.pairs = some p → F p) (handleRequest env r)
      (fun _ => SwapsThroughout P) (fun _ => SwapsThroughout P) := by
  have hkeeps : ∀ {x : PyM Unit}, Keeps (SwapsThroughout P) x →
      Triple (fun s => SwapsThroughout P s ∧ ∀ p, s.pairs = some p → F p) x
        (fun _ => SwapsThroughout P) (fun _ => SwapsThroughout P) := fun h => h.pre fun _ hs => hs.1
  cases r with
  | createswap type pairId invoiceAmount preimageHash claimPublicKey =>
    refine triple_pyAssert (fun _ hs => hs.1) fun _ => ?_
    split
    · refine triple_pyAssert (fun _ hs => hs.1) fun _ => triple_pyAssert (fun _ hs => hs.1) fun _ => ?_
      split
      · exact Triple.pure fun _ hs => hs.1
      · refine triple_orRaise (fun _ hs => hs.1) fun balance _ => ?_
        split
        · exact Triple.pure fun _ hs => hs.1
        · exact Triple.bind (throughout_createNormalSwap hP hnew ha) fun _ => Keeps.pure
    · exact Triple.pure fun _ hs => hs.1
  | createnormalswap invoiceAmount refundPublicKey =>
    exact hkeeps (Keeps.bind (keeps_pyAssert _) fun _ => Keeps.ite Keeps.pure
      (Keeps.bind (throughout_createReverseSwap hP hnew ha) fun _ => Keeps.pure))
  | addswapinvoice invoice =>
    exact hkeeps (throughout_moves hP (moves_serverAddSwapInvoice rfl env invoice))
  | unknown method => exact hkeeps Keeps.pure

end Creating

/-! ## The run -/

theorem ofDeal_agreedIn (actions : List Action) : OfDeal (AgreedIn actions) :=
  fun _ _ hs h => h.congr hs

/-- What holds of a swap that is agreed on, at fees in `F`, holds of every copy of a swap. -/
theorem throughout_step {P : SwapData → Prop} {F : Pairs → Prop} {a : Action} {w : World}
    (hP : OfDeal P) (hnew : ∀ swap, Agreed a swap → Priced F swap → P swap)
    (hF : ∀ p, w.pairs = some p → F p) (hw : SwapsThroughout P w) : SwapsThroughout P (step a w) := by
  by_cases ha : ∃ env r, a = .request env r
  · obtain ⟨env, r, rfl⟩ := ha
    show SwapsThroughout P (final (atStage World.running (handleRequest env r)) w)
    have hrequest : Triple (fun s => SwapsThroughout P s ∧ ∀ p, s.pairs = some p → F p)
        (atStage World.running (handleRequest env r)) (fun _ => SwapsThroughout P)
        fun _ => SwapsThroughout P := by
      refine Triple.getBind fun s hs => ?_
      split
      · exact (throughout_handleRequest hP hnew rfl).pre fun _ ht => ht ▸ hs
      · exact Triple.pure fun _ ht => ht ▸ hs.1
    exact hrequest.final ⟨hw, hF⟩
  · have hsurvives : Survives a w fun w => True ∧ SwapsThroughout P w := by
      refine Survives.trivial.swaps (fun swap hnew => ?_) hP.db ?_ ?_
      · obtain ⟨env, r, height, hr, -⟩ := hnew.locktime
        exact absurd ⟨env, r, hr⟩ ha
      · intro _ _ _ now f hf swap
        exact hP swap (f swap) (hf.sameDeal swap)
      · intro swap t
        exact hP swap _ ⟨rfl, rfl, rfl, rfl, rfl, rfl, rfl, rfl, rfl⟩
    exact (step_invariant hsurvives ⟨trivial, hw⟩).2

/-- **Every copy of a swap is one that was agreed on**, in every run. -/
theorem agreed_throughout (actions : List Action) :
    SwapsThroughout (AgreedIn actions) (runOf actions World.start) := by
  induction actions using List.reverseRecOn with
  | nil => exact .start
  | append_singleton past a ih =>
    rw [runOf_append]
    have hw : SwapsThroughout (AgreedIn (past ++ [a])) (runOf past World.start) :=
      ih.mono fun _ h => h.append
    exact throughout_step (F := fun _ => True) (ofDeal_agreedIn _) (fun _ h _ => .new h)
      (fun _ _ => trivial) hw

/-! ## Funding -/

/-- A funding transaction pays the lockup address of its swap the amount of its swap, besides what the
wallet has put in itself. -/
def Event.PaysLockup (actions : List Action) : Event → Prop
  | .sendpsbt swap _ tx => AgreedIn actions swap ∧ swap.fundingTxid = some tx.txid ∧
      ∃ env, .callbacks env ∈ actions ∧ MadeTx env swap tx
  | _ => True

theorem Event.OfMove.paysLockup {e : Event} (he : e.OfMove) (actions : List Action) :
    e.PaysLockup actions := by
  cases e with
  | sendpsbt => exact he.elim
  | _ => trivial

/-- What the callback pass keeps. -/
structure PaysAgreed (actions : List Action) (w : World) : Prop where
  swaps : SwapsThroughout (AgreedIn actions) w
  log : w.Says (Event.PaysLockup actions)

namespace PaysAgreed

variable {actions : List Action} {w w' : World}

theorem move {a : Action} {w₀ : World} (h : PaysAgreed actions w) (ha : ∀ env r, a ≠ .request env r)
    (hmove : Move a w₀ w w') : PaysAgreed actions w' where
  swaps := h.swaps.moveOn (ofDeal_agreedIn actions) ha hmove
  log := h.log.told hmove.told fun _ he => he.paysLockup actions

theorem say {e : Event} (h : PaysAgreed actions w) (he : e.PaysLockup actions) :
    PaysAgreed actions (w.say e) := ⟨h.swaps.say e, h.log.say he⟩

theorem mutHoldInvoice (k : Hex) (f : HoldInvoice → HoldInvoice)
    (hf : ∀ inv, (f inv).paymentHash = inv.paymentHash) (h : PaysAgreed actions w) :
    PaysAgreed actions (w.mutHoldInvoice k f hf) where
  swaps := h.swaps.tables (.of_db ⟨rfl, rfl, rfl, rfl, rfl, rfl⟩ rfl) fun _ hv => .inl hv
  log := h.log.recorded ⟨rfl, rfl, rfl, rfl, rfl⟩

theorem send {env : Env} {ref : SwapRef} {tx : FundingTx} (h : PaysAgreed actions w)
    (henv : .callbacks env ∈ actions) (hlt : ref < w.nextRef) (htx : MadeTx env (w.heap ref) tx) :
    PaysAgreed actions (w.send ref tx) where
  swaps := h.swaps.send ref tx fun swap hswap =>
    ofDeal_agreedIn actions swap _ ⟨rfl, rfl, rfl, rfl, rfl, rfl, rfl, rfl, rfl⟩ hswap
  log := by
    apply World.Says.say (h.log.recorded (.assign w ref _))
    rw [World.assign_heap_self]
    refine ⟨?_, rfl, env, henv, htx⟩
    exact ofDeal_agreedIn actions (w.heap ref) _ ⟨rfl, rfl, rfl, rfl, rfl, rfl, rfl, rfl, rfl⟩
      (h.swaps.live ref hlt)

end PaysAgreed

theorem pays_holdInvoiceCallback {actions : List Action} {env : Env} (henv : .callbacks env ∈ actions)
    (payment_hash : Bytes) : Keeps (PaysAgreed actions) (holdInvoiceCallback env payment_hash) := by
  refine Keeps.getBind fun w hw => ?_
  split
  · exact Triple.pure fun s hs => hs ▸ hw
  next ref href =>
  split
  · have hlt : ref < w.nextRef := (hw.swaps.table _ ref href).1
    have hcreated : PaysAgreed actions (w.createFunding ref) := hw.say trivial
    have hcreate : Triple (· = w) (createFundingTx env ref)
        (fun tx s => s = w.createFunding ref ∧ MadeTx env (w.heap ref) tx)
        fun _ => PaysAgreed actions :=
      (triple_createFundingTx env ref w).conseq (fun _ hs => hs) (fun _ _ hs => ⟨hs.1, hs.2.2⟩)
        fun _ _ hs => hs.1 ▸ hcreated
    refine Triple.bind hcreate fun tx => Triple.at fun s hs => ?_
    obtain ⟨rfl, htx⟩ := hs
    have hsent : PaysAgreed actions ((w.createFunding ref).send ref tx) :=
      hcreated.send henv hlt htx
    have hhad : w.Had ref ((w.createFunding ref).send ref tx) := by
      refine .inr ⟨hex payment_hash, ?_⟩
      have hswaps : ((w.createFunding ref).send ref tx).swaps = w.swaps :=
        World.assign_swaps ref _ (w.createFunding ref)
      rw [hswaps]
      exact href
    refine Triple.tryCatch (R := fun _ s => PaysAgreed actions s ∧ w.Had ref s) ?_ fun _ =>
      ((walks_failSwap (a := .callbacks env) env ref).keeps fun _ _ hmove hs =>
        hs.move (fun _ _ => by simp) hmove).post fun _ _ hs => hs.1
    intro s hs
    rw [hs, broadcastFundingTx_run]
    cases env.sendpsbt with
    | true => exact hsent
    | false => exact ⟨hsent, hhad⟩
  · exact Triple.pure fun s hs => hs ▸ hw

theorem pays_callbackHandler {actions : List Action} {env : Env} (henv : .callbacks env ∈ actions) :
    Keeps (PaysAgreed actions) (callbackHandler env (callOf env)) := by
  have hmoves : ∀ {p : PyM Unit}, Moves (Move (.callbacks env) World.start) p →
      Keeps (PaysAgreed actions) p := fun h =>
    h.keeps fun _ _ hmove hs => hs.move (fun _ _ => by simp) hmove
  apply keeps_callbackPass
  · intro k
    exact hmoves (moves_unregister k)
  · intro w p prepay preimage hw _
    refine Triple.pre (R := PaysAgreed actions) ?_ fun s hs => hs ▸ hw
    apply keeps_settleInvoice
    · exact fun k _ _ _ hw => hw.mutHoldInvoice k _ _
    · exact fun k _ _ hw => hw.mutHoldInvoice k _ _
    · exact fun _ _ _ _ _ _ => keeps_setResult (fun _ hw => hw.say trivial) fun _ hw => hw.say trivial
    · exact fun _ _ hw => hw.say trivial
  · intro h
    exact hmoves (moves_updateInvoice env h)
  · exact fun _ _ hw => hw.say trivial
  · exact pays_holdInvoiceCallback henv

theorem Event.PaysLockup.append {past : List Action} {a : Action} {e : Event} (h : e.PaysLockup past) :
    e.PaysLockup (past ++ [a]) := by
  cases e with
  | sendpsbt =>
    obtain ⟨hagreed, hnoted, env, henv, hmade⟩ := h
    exact ⟨hagreed.append, hnoted, env, List.mem_append_left _ henv, hmade⟩
  | _ => trivial

theorem paysAgreed (actions : List Action) : PaysAgreed actions (runOf actions World.start) := by
  refine ⟨agreed_throughout actions, ?_⟩
  induction actions using List.reverseRecOn with
  | nil => exact .start
  | append_singleton past a ih =>
    have hlog := ih.mono fun _ h => Event.PaysLockup.append (a := a) h
    rw [runOf_append]
    by_cases ha : ∃ env, a = .callbacks env
    · obtain ⟨env, rfl⟩ := ha
      have hpast : PaysAgreed (past ++ [.callbacks env]) (runOf past World.start) :=
        ⟨(agreed_throughout past).mono fun _ h => h.append, hlog⟩
      exact ((pays_callbackHandler (List.mem_append_right _ List.mem_cons_self)).final hpast).log
    · by_cases hrestart : a.Restarts
      · exact step_restarts hrestart hlog fun env view hview => hlog.restart env hview
      · have hwalk := (walks_programOf a (runOf past World.start) (fun env he => ha ⟨env, he⟩)
          hrestart).keeps (I := World.Says (Event.PaysLockup (past ++ [a]))) fun _ _ hmove hs =>
            hs.told hmove.told fun _ he => he.paysLockup _
        exact (hwalk.conseq (fun _ hs => hs) (fun _ _ hs => hs.1) fun _ _ hs => hs).final
          (P := fun s => s.Says (Event.PaysLockup (past ++ [a])) ∧ s = runOf past World.start)
          ⟨hlog, rfl⟩

/-- **What is sent into a swap.** In every run, whatever fails or is restarted, a funding transaction has
one output besides the change `fundpsbt` has put in: the lockup address of a swap some request of the run
agreed on, with the amount of that swap. -/
theorem funding_pays_lockup (actions : List Action) {swap : SwapData} {stored : Option SwapData}
    {tx : FundingTx} (h : .sendpsbt swap stored tx ∈ (runOf actions World.start).trace) :
    (∃ a ∈ actions, Agreed a swap) ∧ swap.fundingTxid = some tx.txid ∧
      ∃ env, .callbacks env ∈ actions ∧ MadeTx env swap tx :=
  (paysAgreed actions).log.log _ h

end

section Sample

open Sample

attribute [local instance] Sample.deployment

theorem funding_pays_lockup_fundedRun : ∃ swap stored tx,
    .sendpsbt swap stored tx ∈ (runOf fundedRun World.start).trace ∧ swap.fundingTxid = some tx.txid := by
  have hany : (runOf fundedRun World.start).trace.any
      (fun e => match e with | .sendpsbt _ _ _ => true | _ => false) = true := by decide +kernel
  obtain ⟨e, he, hsend⟩ := List.any_eq_true.mp hany
  cases e with
  | sendpsbt swap stored tx => exact ⟨swap, stored, tx, he, (funding_pays_lockup fundedRun he).2.1⟩
  | _ => cases hsend

end Sample

end SubswapProvider
