import SubswapProvider.Expiring
import SubswapProvider.Funding

/-!
# One turn of the callback pass

A turn of `callback_handler` may redeem a prepay invoice and may call the callback of a swap. Each of
the two has one spec lemma here: when it raises, and what it leaves as it was. Redeeming changes the
prepay invoice alone (`redeemPrepay_spec`), the callback changes the swap it is called for alone
(`invokeCallback_spec`).

Both depend on the tables, and on how many prepay invoices have been redeemed and how many writes have
been made since (`Progress`): the callbacks of HTLCs can be answered once only, and the datastore may
fail any write.
-/

namespace SubswapProvider

open Effect

/-- What the turns of a pass have used up so far: the prepay invoices they have redeemed, and calls of
`write`. -/
structure Progress where
  redeemed : List HoldInvoice
  writes : Nat

namespace Progress

/-- Nothing has been used up. -/
def none : Progress := ⟨[], 0⟩

/-- The HTLCs held on the prepay invoices that have been redeemed. -/
def htlcs (p : Progress) : List Htlc := p.redeemed.flatMap (·.incomingHtlcs.elems)

/-- A prepay invoice more has been redeemed, and saved. -/
def redeem (p : Progress) (prepay : HoldInvoice) : Progress where
  redeemed := p.redeemed ++ [prepay]
  writes := p.writes + 1

theorem htlcs_redeem (p : Progress) (prepay : HoldInvoice) :
    (p.redeem prepay).htlcs = p.htlcs ++ prepay.incomingHtlcs.elems := by
  unfold htlcs redeem
  simp

end Progress

/-- The event invokes no callback. -/
def Event.InvokesNone (e : Event) : Prop := ∀ invoice, e ≠ .invokeCallback invoice

section

variable [Deployment] {env : Env} {w : World} {k : Hex}

/-! ## Redeeming the prepay invoice -/

/-- What a turn does to a prepay invoice that is `FUNDED`. -/
def redeemPrepay (env : Env) (prepay : HoldInvoice) : PyM Unit := do
  let preimage ← getPreimage prepay.paymentHash
  settleInvoice prepay preimage
  updateInvoice env prepay.paymentHash

/-- The preimage of the payment hash is known. -/
def World.PreimageKnown (w : World) (payment_hash : Bytes) : Prop :=
  payment_hash.length = 32 ∧
    ∃ preimage, w.preimages.get? (hex payment_hash) = some preimage ∧
      Deployment.sha256 preimage = payment_hash

/-- The prepay invoice can be redeemed after what has been used up since `w`: its preimage is known,
each accepted HTLC of it has an open callback of its own, and the datastore takes the change. -/
structure World.CanRedeem (env : Env) (w : World) (p : Progress) (prepay : HoldInvoice) : Prop where
  preimage : w.PreimageKnown prepay.paymentHash
  full : prepay.isFullyFunded = true
  htlcs : w.Answerable (p.htlcs ++ prepay.incomingHtlcs.elems)
  write : env.writeFails (w.db.calls + p.writes) = false

/-- Everything is as it was but the hold invoices, the store and the log. -/
structure World.Apart (w w' : World) : Prop where
  preimages : w'.preimages = w.preimages
  swaps : w'.swaps = w.swaps
  heap : w'.heap = w.heap
  holdInvoiceCallbacks : w'.holdInvoiceCallbacks = w.holdInvoiceCallbacks
  invoicesToPay : w'.invoicesToPay = w.invoicesToPay

omit [Deployment] in
theorem World.Apart.refl (w : World) : w.Apart w := ⟨rfl, rfl, rfl, rfl, rfl⟩

omit [Deployment] in
theorem World.Apart.trans {w' w'' : World} (h : w.Apart w') (h' : w'.Apart w'') : w.Apart w'' :=
  ⟨h'.preimages.trans h.preimages, h'.swaps.trans h.swaps, h'.heap.trans h.heap,
    h'.holdInvoiceCallbacks.trans h.holdInvoiceCallbacks, h'.invoicesToPay.trans h.invoicesToPay⟩

theorem getPreimage_known {payment_hash : Bytes} (h : w.PreimageKnown payment_hash) :
    ∃ preimage, Deployment.sha256 preimage = payment_hash ∧
      getPreimage payment_hash w = .ok (some preimage) w := by
  obtain ⟨hlength, preimage, hget, hsha⟩ := h
  refine ⟨preimage, hsha, ?_⟩
  unfold getPreimage
  rw [decide_eq_true hlength, pyAssert_true, pure_bind, get_bind, hget]
  dsimp only
  rw [if_neg (not_not.mpr hsha)]
  rfl

/-- Without a known preimage there is nothing to settle with. -/
theorem getPreimage_unknown {payment_hash : Bytes} (h : ¬ w.PreimageKnown payment_hash) :
    (∃ e, getPreimage payment_hash w = .error e w) ∨ getPreimage payment_hash w = .ok none w := by
  unfold getPreimage
  by_cases hlength : payment_hash.length = 32
  · rw [decide_eq_true hlength, pyAssert_true, pure_bind, get_bind]
    cases hget : w.preimages.get? (hex payment_hash) with
    | none => exact .inr rfl
    | some preimage =>
      have hsha : Deployment.sha256 preimage ≠ payment_hash :=
        fun hsha => h ⟨hlength, preimage, hget, hsha⟩
      dsimp only
      rw [if_pos hsha]
      exact .inl ⟨_, rfl⟩
  · rw [decide_eq_false hlength]
    exact .inl ⟨_, rfl⟩

omit [Deployment] in
/-- `update_invoice` of a stored invoice raises exactly when its write fails. -/
theorem updateInvoice_returns_iff (env : Env) {payment_hash : Bytes} {invoice : HoldInvoice}
    (h : w.getHoldInvoice payment_hash = some invoice) :
    returns (updateInvoice env payment_hash) w = true ↔ env.writeFails w.db.calls = false := by
  have hk : hex invoice.paymentHash = hex payment_hash := HoldInvoices.hex_paymentHash h
  have hstored : (w.holdInvoices.get? (hex payment_hash)).isSome = true := by
    have hsome : w.holdInvoices.get? (hex payment_hash) = some invoice := h
    rw [hsome]
    rfl
  generalize hs : (w.popHoldInvoice (hex payment_hash)).setHoldInvoice invoice = s
  have hdirty : s.db.pending = true ∧ s.db.modified = true ∧ s.db.calls = w.db.calls := by
    have hgone : (w.holdInvoices.pop (hex payment_hash)).get? (hex invoice.paymentHash) = none := by
      rw [hk, HoldInvoices.get?_pop, if_pos rfl]
    rw [← hs]
    unfold World.popHoldInvoice
    rw [if_pos hstored]
    unfold World.setHoldInvoice
    dsimp only
    rw [hgone, if_neg (fun hno => nomatch hno)]
    exact ⟨rfl, rfl, rfl⟩
  have hrun : updateInvoice env payment_hash w = dbWrite env s := by
    unfold updateInvoice
    rw [get_bind, h, ← hs]
    rfl
  unfold returns
  rw [hrun, dbWrite_run, Db.writes_of_pending hdirty.1 hdirty.2.1, hdirty.2.2, Bool.true_and]
  cases env.writeFails w.db.calls with
  | true => exact iff_of_false (fun hno => nomatch hno) fun hno => nomatch hno
  | false => exact iff_of_true rfl rfl

/-- `settle` with the preimage of an invoice whose HTLCs can be answered. -/
theorem settleInvoice_answers {invoice : HoldInvoice} {preimage : Bytes}
    (hhash : Deployment.sha256 preimage = invoice.paymentHash) (hfull : invoice.isFullyFunded = true)
    (h : w.Answerable invoice.incomingHtlcs.elems) :
    ∃ s₁ s, settleInvoice invoice (some preimage) w = .ok ⟨⟩ s ∧
      w.AnswersAll s₁ (acceptedRequests invoice.incomingHtlcs.elems) (.resolve preimage) ∧
      w.Within (hex invoice.paymentHash) s₁ ∧
      s = (s₁.mutHoldInvoice (hex invoice.paymentHash) (·.setFundingStatus .settled) fun _ => rfl).say
        (.settled invoice.paymentHash preimage) := by
  obtain ⟨s₁, hrun, hanswers, hwithin⟩ :=
    resolveAll_answers (hex invoice.paymentHash) .settled (.resolve preimage) h
  have hfor : forAccepted invoice (settleHtlc (hex invoice.paymentHash) · preimage) w = .ok () s₁ :=
    hrun
  refine ⟨s₁, _, ?_, hanswers, hwithin, rfl⟩
  unfold settleInvoice
  dsimp only
  rw [decide_eq_true hhash.symm, pyAssert_true, pure_bind, if_pos hfull, pure_bind, bind_ok hfor]
  rfl

/-- Of another one it raises. -/
theorem settleInvoice_stops {invoice : HoldInvoice} (preimage : Bytes)
    (h : invoice.isFullyFunded = true → ¬ w.Answerable invoice.incomingHtlcs.elems) :
    returns (settleInvoice invoice (some preimage)) w = false := by
  unfold settleInvoice
  dsimp only
  by_cases hhash : invoice.paymentHash = Deployment.sha256 preimage
  · rw [decide_eq_true hhash, pyAssert_true, pure_bind]
    by_cases hfull : invoice.isFullyFunded = true
    · have hstops :=
        resolveAll_stops (hex invoice.paymentHash) .settled (.resolve preimage) (h hfull)
      rw [if_pos hfull, pure_bind]
      unfold returns at hstops ⊢
      split at hstops
      · cases hstops
      · next e s hr =>
        have hfor : forAccepted invoice (settleHtlc (hex invoice.paymentHash) · preimage) w
            = .error e s := hr
        rw [bind_error hfor]
    · rw [if_neg hfull]
      rfl
  · rw [decide_eq_false hhash]
    rfl

/-! ### What it changes -/

theorem apart_settleInvoice (invoice : HoldInvoice) (preimage : Option Bytes) (w₀ : World) :
    Keeps w₀.Apart (settleInvoice invoice preimage) := by
  have hsame : ∀ {s s' : World}, w₀.Apart s → s.Apart s' → w₀.Apart s' := fun h h' => h.trans h'
  unfold settleInvoice
  split
  · exact Keeps.throw
  · refine Keeps.bind (keeps_pyAssert _) fun _ => Keeps.bind (Keeps.ite Keeps.pure Keeps.throw)
      fun _ => Keeps.bind (Keeps.forM fun htlc _ => Keeps.ite ?_ Keeps.pure) fun _ =>
      Keeps.bind (Keeps.modify fun s h => hsame h ⟨rfl, rfl, rfl, rfl, rfl⟩) fun _ =>
      Keeps.modify fun s h => hsame h ⟨rfl, rfl, rfl, rfl, rfl⟩
    unfold settleHtlc resolveHtlc
    refine Keeps.ite ?_ Keeps.throw
    split
    · exact Keeps.throw
    · exact Keeps.bind (Keeps.modify fun s h => hsame h ⟨rfl, rfl, rfl, rfl, rfl⟩) fun _ =>
        Keeps.get fun _ => Keeps.ite
          (Keeps.bind (Keeps.modify fun s h => hsame h ⟨rfl, rfl, rfl, rfl, rfl⟩) fun _ => Keeps.throw)
          (Keeps.modify fun s h => hsame h ⟨rfl, rfl, rfl, rfl, rfl⟩)

omit [Deployment] in
/-- Saving an invoice again counts as one write. -/
theorem apart_updateInvoice (env : Env) (payment_hash : Bytes) (w : World) :
    Triple (· = w) (updateInvoice env payment_hash)
      (fun _ s => w.Apart s ∧ s.db.calls = w.db.calls + 1) fun _ s => w.Apart s := by
  unfold updateInvoice
  refine Triple.getBind fun w hw => ?_
  subst hw
  split
  · exact Triple.throw fun s hs => hs ▸ .refl w
  · next invoice _ =>
    have hpop : w.Apart (w.popHoldInvoice (hex payment_hash)) ∧
        (w.popHoldInvoice (hex payment_hash)).db.calls = w.db.calls := by
      unfold World.popHoldInvoice
      split
      · exact ⟨⟨rfl, rfl, rfl, rfl, rfl⟩, rfl⟩
      · exact ⟨.refl w, rfl⟩
    have hset : ∀ s : World, s.Apart (s.setHoldInvoice invoice) ∧
        (s.setHoldInvoice invoice).db.calls = s.db.calls := by
      intro s
      unfold World.setHoldInvoice
      dsimp only
      split
      · exact ⟨.refl s, rfl⟩
      · exact ⟨⟨rfl, rfl, rfl, rfl, rfl⟩, rfl⟩
    refine Triple.modifyBind (R := fun s => w.Apart s ∧ s.db.calls = w.db.calls)
      (fun s hs => hs ▸ hpop) ?_
    refine Triple.modifyBind (R := fun s => w.Apart s ∧ s.db.calls = w.db.calls) (fun s hs => ?_) ?_
    · exact ⟨hs.1.trans (hset s).1, (hset s).2.trans hs.2⟩
    · intro s hs
      have hwrote : ∀ {s'}, s.Wrote s' → w.Apart s' ∧ s'.db.calls = w.db.calls + 1 := by
        rintro _ ⟨db, views, rfl, hcalls⟩
        exact ⟨hs.1.trans ⟨rfl, rfl, rfl, rfl, rfl⟩, hcalls.trans (by rw [hs.2])⟩
      exact ((triple_dbWrite env s).conseq (fun _ h => h) (fun _ _ h => hwrote h.1)
        fun _ _ h => (hwrote h.1).1) s rfl

/-- What redeeming a prepay invoice leads to: it is settled, its callbacks have their results, and
nothing else has changed. -/
structure World.Redeemed (prepay : HoldInvoice) (w w' : World) : Prop extends w.Apart w' where
  others : ∀ k, k ≠ hex prepay.paymentHash → w'.holdInvoices.get? k = w.holdInvoices.get? k
  settled : ∃ inv, w'.getHoldInvoice prepay.paymentHash = some inv ∧ inv.fundingStatus = .settled
  calls : w'.db.calls = w.db.calls + 1
  answered : ∀ r, w'.Answered r ↔
    r ∈ acceptedRequests prepay.incomingHtlcs.elems ∨ w.Answered r

/-- **The prepay invoice is redeemed exactly when it can be.** -/
theorem redeemPrepay_spec (env : Env) {prepay : HoldInvoice}
    (hstored : w.getHoldInvoice prepay.paymentHash = some prepay) :
    Triple (· = w) (redeemPrepay env prepay)
      (fun _ s => w.CanRedeem env .none prepay ∧ w.Redeemed prepay s)
      (fun _ _ => ¬ w.CanRedeem env .none prepay) := by
  rintro s rfl
  unfold redeemPrepay
  by_cases hknown : s.PreimageKnown prepay.paymentHash
  · obtain ⟨preimage, hsha, hget⟩ := getPreimage_known hknown
    rw [bind_ok hget]
    by_cases hsettle : prepay.isFullyFunded = true ∧ s.Answerable prepay.incomingHtlcs.elems
    · obtain ⟨s₁, s₂, hrun, hanswers, hwithin, hs₂⟩ := settleInvoice_answers hsha hsettle.1 hsettle.2
      have happart₁ : s.Apart s₂ := by
        have hkeeps := (apart_settleInvoice prepay (some preimage) s).final (.refl s)
        unfold final at hkeeps
        rwa [hrun] at hkeeps
      have hdb : s₂.db = s.db := by
        rw [hs₂]
        exact hwithin.db
      have hget₂ : ∀ k, s₂.holdInvoices.get? k = if k = hex prepay.paymentHash
          then (s₁.holdInvoices.get? (hex prepay.paymentHash)).map (·.setFundingStatus .settled)
          else s₁.holdInvoices.get? k := by
        intro k
        rw [hs₂]
        show (s₁.mutHoldInvoice (hex prepay.paymentHash) (·.setFundingStatus .settled)
          fun _ => rfl).holdInvoices.get? k = _
        exact World.get?_mutHoldInvoice k
      obtain ⟨inv, hinv⟩ : ∃ inv, s₁.holdInvoices.get? (hex prepay.paymentHash) = some inv := by
        apply Option.isSome_iff_exists.mp
        rw [hwithin.stored]
        unfold World.getHoldInvoice at hstored
        rw [hstored]
        rfl
      have hsettled : s₂.getHoldInvoice prepay.paymentHash
          = some (inv.setFundingStatus .settled) := by
        unfold World.getHoldInvoice
        rw [hget₂, if_pos rfl, hinv]
        rfl
      have hreturns := updateInvoice_returns_iff env hsettled
      have hupdate := apart_updateInvoice env prepay.paymentHash s₂ s₂ rfl
      have hsame := (same_update env prepay.paymentHash s₂).final (.refl s₂)
      unfold returns at hreturns
      unfold final at hsame
      rw [bind_ok hrun]
      rw [hdb] at hreturns
      cases hr : updateInvoice env prepay.paymentHash s₂ with
      | ok _ s₃ =>
        rw [hr] at hreturns hupdate hsame
        refine ⟨⟨hknown, hsettle.1, hsettle.2, hreturns.mp rfl⟩, happart₁.trans hupdate.1, ?_, ?_, ?_, ?_⟩
        · intro k hk
          rw [hsame.holdInvoices, hget₂, if_neg hk, hwithin.get?_ne hk]
        · refine ⟨_, (hsame.holdInvoices _).trans hsettled, rfl⟩
        · rw [hupdate.2, hdb]
        · intro r
          have htrace : s₃.trace = .settled prepay.paymentHash preimage :: s₁.trace := by
            rw [hsame.trace, hs₂]
            rfl
          rw [← hanswers.answered_iff r]
          constructor
          · rintro ⟨res, hres⟩
            rw [htrace] at hres
            rcases List.mem_cons.mp hres with heq | hres
            · cases heq
            · exact ⟨res, hres⟩
          · rintro ⟨res, hres⟩
            exact ⟨res, htrace ▸ List.mem_cons_of_mem _ hres⟩
      | error e s₃ =>
        rw [hr] at hreturns
        intro h
        exact Bool.false_ne_true (hreturns.mpr h.write)
    · have hstops := settleInvoice_stops preimage (not_and.mp hsettle)
      unfold returns at hstops
      split at hstops
      · cases hstops
      · next e s' hr =>
        rw [bind_error hr]
        exact fun h => hsettle ⟨h.full, h.htlcs⟩
  · rcases getPreimage_unknown hknown with ⟨e, hget⟩ | hget
    · rw [bind_error hget]
      exact fun h => hknown h.preimage
    · rw [bind_ok hget]
      exact fun h => hknown h.preimage

/-! ## Calling the callback -/

/-- Every swap is stored under its payment hash, and `set_db` has been called on it. -/
structure World.SwapsStored (w : World) : Prop where
  keyed : ∀ k ref, w.swaps.get? k = some ref → k = hex (w.heap ref).paymentHash
  tracked : w.Tracked

theorem swapsStored_of_reachable {ok : World → Action → Prop} (h : Reachable ok w) : w.SwapsStored :=
  ⟨fun k ref href => ((swaps_filed h).table k ref href).2, swaps_tracked h⟩

/-- The swap under `k` is still to be funded. -/
def World.unfunded (w : World) (k : Hex) : Bool := (w.swap? k).any (·.fundingTxid.isNone)

/-- The callback of the swap under `k` returns, after as many writes: there is nothing to fund, or the
wallet makes the transaction and takes it; or, where it does not take it, the swap can be failed. -/
def World.CanCall (env : Env) (w : World) (p : Progress) (k : Hex) : Prop :=
  ∀ swap, w.swap? k = some swap → swap.fundingTxid = none → MakesTx env swap ∧
    (env.sendpsbt = true ∨ (w.running = true ∧ env.writeFails (w.db.calls + p.writes) = false))

/-- The writes of a callback that returns: one where a swap is failed. -/
def World.callWrites (env : Env) (w : World) (k : Hex) : Nat :=
  if w.unfunded k && !env.sendpsbt then 1 else 0

/-- What a callback leaves that has been called for the swap under `k`. -/
structure World.Called (env : Env) (w : World) (k : Hex) (w' : World) : Prop where
  holdInvoices : w'.holdInvoices = w.holdInvoices
  holdInvoiceCallbacks : ∀ k', k' ≠ k →
    w'.holdInvoiceCallbacks.contains k' = w.holdInvoiceCallbacks.contains k'
  preimages : w'.preimages = w.preimages
  running : w'.running = w.running
  swaps : ∀ k', k' ≠ k → w'.swap? k' = w.swap? k'
  stored : w'.SwapsStored
  calls : w'.db.calls = w.db.calls + w.callWrites env k
  answered : ∀ r, w'.Answered r ↔ w.Answered r

omit [Deployment] in
theorem World.CanCall.none_iff (h : w.swap? k = none) (p : Progress) : w.CanCall env p k := by
  intro swap hswap
  rw [h] at hswap
  cases hswap

/-! ### Failing a swap -/

/-- What `_fail_swap` leaves of a swap: the objects are as they were, and at most its own entry is
gone. -/
structure World.Fails (w : World) (k : Hex) (w' : World) : Prop where
  heap : w'.heap = w.heap
  preimages : w'.preimages = w.preimages
  running : w'.running = w.running
  swaps : ∀ k', k' ≠ k → w'.swaps.get? k' = w.swaps.get? k'
  fewer : ∀ k' ref, w'.swaps.get? k' = some ref → w.swaps.get? k' = some ref

omit [Deployment] in
theorem World.Fails.refl (w : World) (k : Hex) : w.Fails k w :=
  ⟨rfl, rfl, rfl, fun _ _ => rfl, fun _ _ h => h⟩

omit [Deployment] in
/-- A change of other tables. -/
theorem World.Fails.congr {w' w'' : World} (h : w.Fails k w') (hheap : w''.heap = w'.heap)
    (hpreimages : w''.preimages = w'.preimages) (hrunning : w''.running = w'.running)
    (hswaps : w''.swaps = w'.swaps) : w.Fails k w'' :=
  ⟨hheap.trans h.heap, hpreimages.trans h.preimages, hrunning.trans h.running,
    fun k' hk' => hswaps ▸ h.swaps k' hk', fun k' ref href => h.fewer k' ref (hswaps ▸ href)⟩

omit [Deployment] in
theorem World.Fails.popSwap {w' : World} (h : w.Fails k w') : w.Fails k (w'.popSwap k) := by
  unfold World.popSwap
  split
  · refine ⟨h.heap, h.preimages, h.running, fun k' hk' => ?_, fun k' ref href => ?_⟩
    · exact (Dict.get?_pop_ne _ hk').trans (h.swaps k' hk')
    · by_cases hk' : k' = k
      · subst hk'
        rw [Dict.get?_pop_self] at href
        cases href
      · exact h.fewer k' ref ((Dict.get?_pop_ne _ hk').symm.trans href)
  · exact h

omit [Deployment] in
/-- **`_fail_swap` touches the entry of its swap only**, and writes once. -/
theorem failSwap_leaves (env : Env) (ref : SwapRef) (w : World) :
    Triple (· = w) (failSwap env ref)
      (fun _ s => w.Fails (hex (w.heap ref).paymentHash) s ∧ s.db.calls = w.db.calls + 1)
      fun _ _ => True := by
  rintro s rfl
  rw [failSwap_run]
  generalize hk : hex (s.heap ref).paymentHash = k
  generalize (s.heap ref).lockupAddress = address
  generalize ((s.heap ref).fundingTxid.isNone || (s.heap ref).isRedeemed) = pops
  let I : World → Prop := fun t => s.Fails k t ∧ t.db.calls = s.db.calls
  have hnever : ∀ (e : PyErr) (t : World), I t → True := fun _ _ _ => trivial
  refine Triple.bind (P := (· = s)) (R := fun _ => I) ?_ (fun _ => ?_) s rfl
  · have hkeeps : Keeps I (deleteInvoice env k false) := by
      refine Keeps.get fun _ => Keeps.ite (Keeps.bind (Keeps.modify fun t ht => ?_) fun _ =>
        Keeps.pure) Keeps.pure
      unfold World.popInvoice
      split
      · exact ⟨ht.1.congr rfl rfl rfl rfl, ht.2⟩
      · exact ht
    exact hkeeps.conseq (fun t ht => ht ▸ ⟨.refl s k, rfl⟩) (fun _ _ h => h) hnever
  refine Triple.bind (R := fun _ => I) ?_ fun _ => ?_
  · refine Triple.getBind fun t ht => ?_
    split
    · exact Triple.throw fun _ _ => trivial
    · next toPay htoPay =>
      refine Triple.modify fun t' ht' => ?_
      subst ht'
      have hrunning : ({ t' with invoicesToPay := some (toPay.pop k) } : World).running
          = t'.running := by
        unfold World.running
        rw [htoPay]
        rfl
      exact ⟨ht.1.congr rfl rfl hrunning rfl, ht.2⟩
  refine Triple.bind (R := fun _ => I) (Triple.modify fun t ht => ?_) fun _ => ?_
  · exact ⟨ht.1.congr rfl rfl rfl rfl, ht.2⟩
  refine Triple.bind (R := fun _ => I) ?_ fun _ => ?_
  · split
    · refine Triple.getBind fun t ht => ?_
      split
      · refine Triple.modify fun t' ht' => ?_
        subst ht'
        refine ⟨ht.1.popSwap, ?_⟩
        unfold World.popSwap
        split
        · exact ht.2
        · exact ht.2
      · exact Triple.throw fun _ _ => trivial
    · exact Triple.pure fun _ h => h
  · intro t ht
    refine ((triple_dbWrite env t).conseq (fun _ h => h) (fun _ s' h => ?_) fun _ _ _ => trivial) t rfl
    obtain ⟨⟨db, views, rfl, hcalls⟩, -⟩ := h
    exact ⟨ht.1.congr rfl rfl rfl rfl, hcalls.trans (by rw [ht.2])⟩

/-! ### Funding a swap -/

/-- The funding transaction of the swap object has been noted, and nothing else has changed but the
store and the log. -/
structure World.Sent (w : World) (ref : SwapRef) (w' : World) : Prop where
  heap : ∃ txid, w'.heap
    = Function.update w.heap ref { w.heap ref with fundingTxid := some txid }
  swaps : w'.swaps = w.swaps
  holdInvoices : w'.holdInvoices = w.holdInvoices
  holdInvoiceCallbacks : w'.holdInvoiceCallbacks = w.holdInvoiceCallbacks
  preimages : w'.preimages = w.preimages
  running : w'.running = w.running
  calls : w'.db.calls = w.db.calls
  answered : ∀ r, w'.Answered r ↔ w.Answered r

omit [Deployment] in
/-- What is no answer answers nothing. -/
theorem World.answered_cons {e : Event} {w' : World} (ht : w'.trace = e :: w.trace)
    (he : ∀ r res, e ≠ .answer r res) (r : Request) : w'.Answered r ↔ w.Answered r := by
  constructor
  · rintro ⟨res, hres⟩
    rw [ht] at hres
    rcases List.mem_cons.mp hres with heq | hres
    · exact absurd heq.symm (he r res)
    · exact ⟨res, hres⟩
  · rintro ⟨res, hres⟩
    exact ⟨res, ht ▸ List.mem_cons_of_mem e hres⟩

omit [Deployment] in
theorem World.sent_send (ref : SwapRef) (tx : FundingTx) (w : World) :
    w.Sent ref ((w.createFunding ref).send ref tx) := by
  generalize ht : (w.createFunding ref).assign ref
    (fun swap => { swap with fundingTxid := some tx.txid }) = t
  have hsend : (w.createFunding ref).send ref tx
      = t.say (.sendpsbt (t.heap ref) (t.storedSwap? (hex (t.heap ref).paymentHash)) tx) := by
    unfold World.send
    rw [ht]
  have hcalls : t.db.calls = w.db.calls := by
    rw [← ht]
    dsimp only [World.assign]
    split
    · rfl
    · rfl
  have hanswered : ∀ r, ((w.createFunding ref).send ref tx).Answered r ↔ w.Answered r := by
    intro r
    rw [hsend, World.answered_cons (World.say_trace _ _) (fun _ _ h => by cases h)]
    have htrace : t.trace
        = .createFundingTx (w.heap ref).paymentHash (w.heap ref) w.holdInvoices :: w.trace := by
      rw [← ht, World.assign_trace]
      rfl
    exact World.answered_cons htrace (fun _ _ h => by cases h) r
  rw [hsend] at hanswered ⊢
  refine ⟨⟨tx.txid, ?_⟩, ?_, ?_, ?_, ?_, ?_, hcalls, hanswered⟩
  · show t.heap = _
    rw [← ht, World.assign_heap]
    rfl
  · show t.swaps = _
    rw [← ht, World.assign_swaps]
    rfl
  · show t.holdInvoices = _
    rw [← ht, World.assign_holdInvoices]
    rfl
  · show t.holdInvoiceCallbacks = _
    rw [← ht, World.assign_holdInvoiceCallbacks]
    rfl
  · show t.preimages = _
    rw [← ht, World.assign_preimages]
    rfl
  · show t.invoicesToPay.isSome = _
    rw [← ht, World.assign_invoicesToPay]
    rfl

omit [Deployment] in
/-- A swap that is noted as funded, and perhaps taken out of the table, is the only one that has
changed. -/
theorem World.Sent.called {ref : SwapRef} {t s : World} {n : Nat} (hs : w.SwapsStored)
    (href : w.swaps.get? k = some ref) (ht : w.Sent ref t) (hfails : t.Fails k s)
    (hholds : s.holdInvoices = t.holdInvoices)
    (hregistered : s.holdInvoiceCallbacks = t.holdInvoiceCallbacks)
    (htrace : s.trace = t.trace) (hcalls : s.db.calls = t.db.calls + n)
    (hn : w.callWrites env k = n) : w.Called env k s := by
  obtain ⟨txid, hheap⟩ := ht.heap
  have hsame : ∀ ref', (s.heap ref').paymentHash = (w.heap ref').paymentHash ∧
      (s.heap ref').db = (w.heap ref').db := by
    intro ref'
    rw [hfails.heap, hheap]
    by_cases hr : ref' = ref
    · subst hr
      rw [Function.update_self]
      exact ⟨rfl, rfl⟩
    · rw [Function.update_of_ne hr]
      exact ⟨rfl, rfl⟩
  have hstored : ∀ k' ref', s.swaps.get? k' = some ref' → w.swaps.get? k' = some ref' := by
    intro k' ref' href'
    rw [← ht.swaps]
    exact hfails.fewer k' ref' href'
  refine ⟨hholds.trans ht.holdInvoices, fun k' _ => ?_, hfails.preimages.trans ht.preimages,
    hfails.running.trans ht.running, fun k' hk' => ?_, ⟨fun k' ref' href' => ?_, fun k' ref' href' => ?_⟩,
    by rw [hcalls, ht.calls, hn], fun r => ?_⟩
  · rw [hregistered, ht.holdInvoiceCallbacks]
  · have hget : s.swaps.get? k' = w.swaps.get? k' := by rw [hfails.swaps k' hk', ht.swaps]
    unfold World.swap?
    rw [hget]
    cases hget' : w.swaps.get? k' with
    | none => rfl
    | some ref' =>
      have hne : ref' ≠ ref := by
        rintro rfl
        exact hk' ((hs.keyed k' ref' hget').trans (hs.keyed k ref' href).symm)
      rw [Option.map_some, Option.map_some, hfails.heap, hheap, Function.update_of_ne hne]
  · rw [(hsame ref').1]
    exact hs.keyed k' ref' (hstored k' ref' href')
  · rw [(hsame ref').2]
    exact hs.tracked k' ref' (hstored k' ref' href')
  · rw [← ht.answered r]
    unfold World.Answered
    rw [htrace]

omit [Deployment] in
/-- **The callback of a swap** returns exactly when the swap can be funded or failed, and changes
nothing else. -/
theorem holdInvoiceCallback_spec (env : Env) (hs : w.SwapsStored) (payment_hash : Bytes) :
    Triple (· = w) (holdInvoiceCallback env payment_hash)
      (fun _ s => w.CanCall env .none (hex payment_hash) ∧ w.Called env (hex payment_hash) s)
      (fun _ _ => ¬ w.CanCall env .none (hex payment_hash)) := by
  generalize hk : hex payment_hash = k
  have hidle : w.unfunded k = false → w.Called env k w := by
    intro hfunded
    refine ⟨rfl, fun _ _ => rfl, rfl, rfl, fun _ _ => rfl, hs, ?_, fun _ => Iff.rfl⟩
    unfold World.callWrites
    rw [hfunded]
    rfl
  rintro s rfl
  unfold holdInvoiceCallback
  rw [get_bind, hk]
  cases href : s.swaps.get? k with
  | none =>
    have hnone : s.swap? k = none := by
      unfold World.swap?
      rw [href]
      rfl
    refine ⟨World.CanCall.none_iff hnone _, hidle ?_⟩
    unfold World.unfunded
    rw [hnone]
    rfl
  | some ref =>
    have hswap : s.swap? k = some (s.heap ref) := by
      unfold World.swap?
      rw [href]
      rfl
    have hcall : s.CanCall env .none k ↔ ((s.heap ref).fundingTxid = none →
        MakesTx env (s.heap ref) ∧
          (env.sendpsbt = true ∨ (s.running = true ∧ env.writeFails s.db.calls = false))) := by
      unfold World.CanCall
      rw [hswap]
      constructor
      · exact fun h => h _ rfl
      · rintro h swap heq
        cases heq
        exact h
    have hunfunded : s.unfunded k = (s.heap ref).fundingTxid.isNone := by
      unfold World.unfunded
      rw [hswap]
      rfl
    dsimp only
    cases hnone : (s.heap ref).fundingTxid with
    | some txid =>
      refine ⟨hcall.mpr fun h => ?_, hidle ?_⟩
      · rw [hnone] at h
        cases h
      · rw [hunfunded, hnone]
        rfl
    | none =>
      have hcreate := triple_createFundingTx env ref s s rfl
      rw [Option.isNone_none, if_pos rfl]
      rw [hnone, Option.isNone_none] at hunfunded
      cases hr : createFundingTx env ref s with
      | error e s' =>
        rw [hr] at hcreate
        rw [bind_error hr]
        exact fun h => hcreate.2 (hcall.mp h hnone).1
      | ok tx s' =>
        rw [hr] at hcreate
        obtain ⟨rfl, hmakes, -⟩ := hcreate
        rw [bind_ok hr]
        have hsent := broadcastFundingTx_run env ref tx (s.createFunding ref)
        have hleaves := s.sent_send ref tx
        cases hsendpsbt : env.sendpsbt with
        | true =>
          rw [hsendpsbt, if_pos rfl] at hsent
          rw [tryCatch_ok hsent]
          refine ⟨hcall.mpr fun _ => ⟨hmakes, .inl hsendpsbt⟩, ?_⟩
          refine hleaves.called (n := 0) hs href (.refl _ k) rfl rfl rfl rfl ?_
          unfold World.callWrites
          rw [hsendpsbt, Bool.not_true, Bool.and_false]
          rfl
        | false =>
          rw [hsendpsbt, if_neg Bool.false_ne_true] at hsent
          rw [tryCatch_error hsent]
          generalize htt : (s.createFunding ref).send ref tx = t at hleaves
          have hhash : hex (t.heap ref).paymentHash = k := by
            obtain ⟨txid, hheap⟩ := hleaves.heap
            rw [hheap, Function.update_self]
            exact (hs.keyed k ref href).symm
          have hdirty : Dirty (hex (t.heap ref).paymentHash) s.db.calls s.running t := by
            rw [hhash, ← htt]
            have hkey := hs.keyed k ref href
            rw [hkey] at href ⊢
            exact dirty_send (hs.tracked _ ref href) hnone
              (Dict.contains_iff.mpr ⟨ref, href⟩)
          have hfail := triple_failSwap env hdirty t rfl
          have hforgets := failSwap_leaves env ref t t rfl
          have hquiet := (quiet_failSwap env t ref).final (.refl t)
          unfold final at hquiet
          cases hf : failSwap env ref t with
          | error e s' =>
            rw [hf] at hfail
            intro h
            rcases (hcall.mp h hnone).2 with hsend | hfails
            · rw [hsendpsbt] at hsend
              cases hsend
            · exact hfail hfails
          | ok _ s' =>
            rw [hf] at hfail hforgets hquiet
            refine ⟨hcall.mpr fun _ => ⟨hmakes, .inr hfail.1⟩, ?_⟩
            rw [hhash] at hforgets
            refine hleaves.called hs href hforgets.1 hquiet.holdInvoices
              hquiet.holdInvoiceCallbacks hquiet.trace hforgets.2 ?_
            unfold World.callWrites
            rw [hunfunded, hsendpsbt]
            rfl

omit [Deployment] in
/-- **Calling and unregistering.** -/
theorem invokeCallback_spec (env : Env) (hs : w.SwapsStored) (callback : HoldInvoiceCallback)
    (invoice : HoldInvoice) :
    Triple (· = w) (invokeCallback (callOf env callback) invoice)
      (fun _ s => w.CanCall env .none (hex invoice.paymentHash) ∧
        w.Called env (hex invoice.paymentHash) s)
      (fun _ _ => ¬ w.CanCall env .none (hex invoice.paymentHash)) := by
  cases callback with
  | holdInvoiceCallback =>
    refine Triple.getBind fun s hs' => ?_
    subst hs'
    let said := Event.invokeCallback ((s.getHoldInvoice invoice.paymentHash).getD invoice)
    have hstored : (s.say said).SwapsStored := ⟨hs.keyed, hs.tracked⟩
    refine Triple.modifyBind (R := (· = s.say said)) (fun t ht => by rw [ht]) ?_
    have hspec := holdInvoiceCallback_spec env hstored invoice.paymentHash
    refine Triple.bind hspec fun _ => Triple.modify fun t ht => ?_
    refine ⟨ht.1, ht.2.holdInvoices, fun k' hk' => ?_, ht.2.preimages, ht.2.running, ht.2.swaps,
      ⟨ht.2.stored.keyed, ht.2.stored.tracked⟩, ht.2.calls, fun r => ?_⟩
    · refine Eq.trans ?_ (ht.2.holdInvoiceCallbacks k' hk')
      show ((t.holdInvoiceCallbacks.pop (hex invoice.paymentHash)).get? k').isSome = _
      rw [Dict.get?_pop_ne _ hk']
      rfl
    · have hno : ∀ r res, said ≠ .answer r res := by
        intro r res
        exact Event.noConfusion
      exact (ht.2.answered r).trans (World.answered_cons (World.say_trace said s) hno r)

end

end SubswapProvider
