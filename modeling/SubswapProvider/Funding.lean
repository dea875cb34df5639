import SubswapProvider.Dropping
import SubswapProvider.Throughout
import SubswapProvider.Writing

/-!
# What the funding callback comes to

`hold_invoice_callback` makes the funding transaction outside of its `try`, so a wallet that does not
make it ends the callback with an exception. If only the last call fails the swap is failed, which
lets go of no HTLC. `funding_outcome_iff` says what is left of the two outcomes it is meant to have.
-/

namespace SubswapProvider

open Deployment Effect

/-! ## Stored objects record their changes -/

/-- `set_db` has been called on every swap object in the table. -/
def World.Tracked (w : World) : Prop :=
  ∀ k ref, w.swaps.get? k = some ref → (w.heap ref).db = true

namespace World.Tracked

variable {w w' : World}

theorem congr (h : w.Tracked) (hswaps : w'.swaps = w.swaps) (hheap : w'.heap = w.heap) :
    w'.Tracked := by
  unfold World.Tracked
  rw [hswaps, hheap]
  exact h

theorem assign {ref : SwapRef} {f : SwapData → SwapData} (h : w.Tracked)
    (hf : ∀ swap, (f swap).db = swap.db) : (w.assign ref f).Tracked := by
  intro k ref' href
  rw [World.assign_swaps] at href
  rw [World.assign_heap]
  by_cases hr : ref' = ref
  · subst hr
    rw [Function.update_self, hf]
    exact h k ref' href
  · rw [Function.update_of_ne hr]
    exact h k ref' href

variable [Deployment] {a : Action} {w₀ : World}

theorem move (hmove : Move a w₀ w w') (hfiled : SwapsThroughout (fun _ => True) w)
    (h : w.Tracked) : w'.Tracked := by
  cases hmove.swapChange with
  | none htables => exact h.congr htables.swaps htables.heap
  | alloc swap =>
    intro k ref href
    show (Function.update w.heap w.nextRef swap ref).db = true
    rw [Function.update_of_ne (Nat.ne_of_lt (hfiled.table k ref href).1)]
    exact h k ref href
  | store ref =>
    intro k ref' href
    show (Function.update w.heap ref { w.heap ref with db := true } ref').db = true
    by_cases hr : ref' = ref
    · subst hr
      rw [Function.update_self]
    · rw [Function.update_of_ne hr]
      have hget := (Dict.get?_set _ _ _ _).symm.trans href
      split at hget
      · cases hget
        exact absurd rfl hr
      · exact h k ref' hget
  | pop k =>
    have hkept := (Quiet.popSwap k w).toSwapsKept
    intro k' ref href
    rw [hkept.heap]
    exact h k' ref (hkept.swaps k' ref href)
  | assign ref f _ _ _ hf =>
    exact h.assign fun swap => by cases hf <;> rfl
  | watch ref => exact h
  | unwatch address => exact h

omit [Deployment] in
theorem restart (env : Env) (view : View) (h : w.Tracked) : (w.restart env view).Tracked := by
  unfold World.restart
  split
  · exact h
  · next d _ =>
    intro k ref href
    obtain ⟨swap, hitem⟩ := Dict.getElem?_of_enumerate href
    dsimp only
    rw [hitem]

end World.Tracked

section

variable [Deployment]

theorem swaps_tracked {ok : World → Action → Prop} {w : World} (h : Reachable ok w) : w.Tracked := by
  have hboth : SwapsThroughout (fun _ => True) w ∧ w.Tracked := by
    refine Run.invariant (I := fun w => SwapsThroughout (fun _ => True) w ∧ w.Tracked)
      (fun w a _ hw => ?_) h ⟨SwapsThroughout.start, nofun⟩
    refine step_invariant (I := fun w => SwapsThroughout (fun _ => True) w ∧ w.Tracked)
      ⟨?_, ?_, ?_, ?_⟩ hw
    · intro s s' hmove hs
      exact ⟨hs.1.move hmove (fun _ _ => trivial) (fun _ _ => trivial)
        fun _ _ _ _ _ _ _ _ => trivial, hs.2.move hmove hs.1⟩
    · intro env view _ hview hs
      exact ⟨hs.1.restart env hview fun _ _ => trivial, hs.2.restart env view⟩
    · intro w₁ s main ref _ _ _ hs _ _
      exact ⟨hs.1.say _, hs.2.congr rfl rfl⟩
    · intro w₁ s main ref tx _ _ _ hs _ _
      have hassign : ((s.createFunding ref).assign ref
          fun swap => { swap with fundingTxid := some tx.txid }).Tracked :=
        World.Tracked.assign (hs.2.congr rfl rfl) fun _ => rfl
      exact ⟨hs.1.send ref tx fun _ _ => trivial, hassign.congr rfl rfl⟩
  exact hboth.2

/-! ## Failing the swap -/

/-- The store has changes to write after `n` calls of `write`, and the swap is in the table. -/
structure Dirty (k : Hex) (n : Nat) (running : Bool) (w : World) : Prop where
  pending : w.db.pending = true
  modified : w.db.modified = true
  calls : w.db.calls = n
  stored : w.swaps.contains k = true
  running : w.running = running

omit [Deployment] in
/-- **Where `_fail_swap` raises**, from a state with something to write. -/
theorem triple_failSwap (env : Env) {ref : SwapRef} {n : Nat} {running : Bool} {w : World}
    (h : Dirty (hex (w.heap ref).paymentHash) n running w) :
    Triple (· = w) (failSwap env ref)
      (fun _ s => (running = true ∧ env.writeFails n = false) ∧
        Unwatched (w.heap ref).lockupAddress s)
      (fun _ _ => ¬ (running = true ∧ env.writeFails n = false)) := by
  let k := hex (w.heap ref).paymentHash
  rintro s rfl
  rw [failSwap_run]
  refine Triple.bind (P := (· = s)) (R := fun _ => Dirty k n running) ?_ (fun _ => ?_) s rfl
  · refine Triple.pre (R := Dirty k n running) ?_ fun _ hs => hs ▸ h
    refine (deleteInvoice_returns env k fun t ht => ?_).conseq (fun _ h => h) (fun _ _ h => h)
      fun _ _ h => h.elim
    unfold World.popInvoice
    split
    · exact ⟨rfl, rfl, ht.calls, ht.stored, ht.running⟩
    · exact ht
  refine Triple.bind (R := fun _ t => Dirty k n true t ∧ running = true) (Triple.at fun t ht => ?_)
    fun _ => ?_
  · unfold popInvoiceToPay
    refine Triple.getBind fun t' ht' => ?_
    subst ht'
    have hrunning := ht.running
    unfold World.running at hrunning
    cases htoPay : t'.invoicesToPay with
    | none =>
      refine Triple.throw fun _ _ hgood => ?_
      rw [htoPay, hgood.1] at hrunning
      cases hrunning
    | some toPay =>
      rw [htoPay] at hrunning
      exact Triple.modify fun _ heq => by
        subst heq
        exact ⟨⟨ht.pending, ht.modified, ht.calls, ht.stored, rfl⟩, hrunning.symm⟩
  refine Triple.bind (R := fun _ t => (Dirty k n true t ∧ running = true) ∧
    Unwatched (s.heap ref).lockupAddress t) ?_ fun _ => ?_
  · have hkeeps : Triple (fun t => Dirty k n true t ∧ running = true)
        (removeCallback (s.heap ref).lockupAddress) (fun _ t => Dirty k n true t ∧ running = true)
        (fun _ _ => ¬ (running = true ∧ env.writeFails n = false)) :=
      Triple.modify fun t ht => ⟨⟨ht.1.1, ht.1.2, ht.1.3, ht.1.4, ht.1.5⟩, ht.2⟩
    exact (hkeeps.and (unwatched_removeCallback (s.heap ref).lockupAddress
      (E := fun _ _ => True))).conseq (fun _ ht => ⟨ht, ht⟩) (fun _ _ ht => ht) fun _ _ ht => ht.1
  refine Triple.bind (R := fun _ t => ((t.db.pending = true ∧ t.db.modified = true ∧
    t.db.calls = n) ∧ running = true) ∧ Unwatched (s.heap ref).lockupAddress t) ?_ fun _ => ?_
  · split
    · refine Triple.at fun t ht => ?_
      unfold popSwapOrRaise
      refine Triple.getBind fun t' ht' => ?_
      subst ht'
      rw [if_pos ht.1.1.stored]
      refine Triple.modify fun t heq => ?_
      subst heq
      unfold World.popSwap
      rw [if_pos ht.1.1.stored]
      exact ⟨⟨⟨rfl, rfl, ht.1.1.calls⟩, ht.1.2⟩, ht.2⟩
    · exact Triple.pure fun t ht => ⟨⟨⟨ht.1.1.pending, ht.1.1.modified, ht.1.1.calls⟩, ht.1.2⟩, ht.2⟩
  refine Triple.at fun t ht => ?_
  obtain ⟨⟨⟨hpending, hmodified, hcalls⟩, hrunning⟩, hunwatched⟩ := ht
  refine (triple_dbWrite env t).conseq (fun _ h => h) (fun _ t' ht' => ?_) fun _ _ ht' hgood => ?_
  · refine ⟨⟨hrunning, hcalls ▸ ht'.2 hpending hmodified⟩, ?_⟩
    obtain ⟨db, views, rfl, -⟩ := ht'.1
    exact hunwatched
  · rw [← hcalls, ht'.2] at hgood
    cases hgood.2

/-! ## The two outcomes -/

/-- The funding transaction is recorded, and the wallet has taken it. -/
def FundedBy (env : Env) (ref : SwapRef) (w' : World) : Prop :=
  ∃ swap stored tx, (w'.heap ref).fundingTxid = some tx.txid ∧
    Event.sendpsbt swap stored tx ∈ w'.trace ∧ env.sendpsbt = true

/-- The swap has been failed: it is not watched, and no HTLC of its hold invoice is held. -/
structure FailedAndReleased (payment_hash : Bytes) (lockup_address : Address) (w' : World) : Prop where
  unwatched : Unwatched lockup_address w'
  released : ∀ inv, w'.getHoldInvoice payment_hash = some inv →
    ∀ h ∈ inv.incomingHtlcs, h.state ≠ .accepted

/-- The callback returns with one of its two outcomes. -/
def TwoOutcomes (env : Env) (payment_hash : Bytes) (ref : SwapRef) (w : World) : Prop :=
  returns (holdInvoiceCallback env payment_hash) w = true ∧
    (FundedBy env ref (final (holdInvoiceCallback env payment_hash) w) ∨
      FailedAndReleased payment_hash (w.heap ref).lockupAddress
        (final (holdInvoiceCallback env payment_hash) w))

/-- Failing a swap goes through, and there is no HTLC it would have to release. -/
structure NothingToRelease (env : Env) (inv : HoldInvoice) (w : World) : Prop where
  htlcs : ∀ h ∈ inv.incomingHtlcs, h.state ≠ .accepted
  running : w.running = true
  write : env.writeFails w.db.calls = false

omit [Deployment] in
/-- The process after the funding transaction has been noted has something to write. -/
theorem dirty_send {w : World} {ref : SwapRef} {tx : FundingTx} (hdb : (w.heap ref).db = true)
    (hnone : (w.heap ref).fundingTxid = none)
    (hstored : w.swaps.contains (hex (w.heap ref).paymentHash) = true) :
    Dirty (hex (w.heap ref).paymentHash) w.db.calls w.running ((w.createFunding ref).send ref tx) := by
  have hassign : ((w.createFunding ref).assign ref
      fun swap => { swap with fundingTxid := some tx.txid }).db.pending = true ∧
      ((w.createFunding ref).assign ref
        fun swap => { swap with fundingTxid := some tx.txid }).db.modified = true ∧
      ((w.createFunding ref).assign ref
        fun swap => { swap with fundingTxid := some tx.txid }).db.calls = w.db.calls := by
    dsimp only [World.assign]
    rw [if_pos]
    · exact ⟨rfl, rfl, rfl⟩
    · refine ⟨hdb, fun hsame => ?_⟩
      have hnote : some tx.txid = (w.heap ref).fundingTxid := congrArg SwapData.fundingTxid hsame
      rw [hnone] at hnote
      cases hnote
  refine ⟨hassign.1, hassign.2.1, hassign.2.2, ?_, ?_⟩
  · show ((w.createFunding ref).assign ref _).swaps.contains _ = true
    rw [World.assign_swaps]
    exact hstored
  · show ((w.createFunding ref).assign ref _).invoicesToPay.isSome = w.running
    rw [World.assign_invoicesToPay]
    rfl

/-- **The funding callback has its two outcomes** exactly if the wallet makes the transaction, and takes
it or leaves a swap that holds no HTLC. -/
theorem funding_outcome_iff {ok : World → Action → Prop} {w : World} (h : Reachable ok w) (env : Env)
    {payment_hash : Bytes} {ref : SwapRef} {inv : HoldInvoice}
    (href : w.swaps.get? (hex payment_hash) = some ref)
    (hnone : (w.heap ref).fundingTxid = none)
    (hinv : w.getHoldInvoice payment_hash = some inv) :
    TwoOutcomes env payment_hash ref w ↔
      MakesTx env (w.heap ref) ∧ (env.sendpsbt = true ∨ NothingToRelease env inv w) := by
  have hkey : hex payment_hash = hex (w.heap ref).paymentHash := (swaps_filed h).table _ ref href |>.2
  have hdb : (w.heap ref).db = true := swaps_tracked h _ ref href
  have hcreate := triple_createFundingTx env ref w w rfl
  have hrun : holdInvoiceCallback env payment_hash w = (do
      let tx ← createFundingTx env ref
      tryCatch (broadcastFundingTx env ref tx) fun _ => failSwap env ref : PyM Unit) w := by
    unfold holdInvoiceCallback
    rw [get_bind, href]
    dsimp only
    rw [hnone, Option.isNone_none, if_pos rfl]
  unfold TwoOutcomes returns final
  rw [hrun]
  cases hr : createFundingTx env ref w with
  | error e s =>
    rw [hr] at hcreate
    rw [bind_error hr]
    constructor
    · rintro ⟨hreturns, -⟩
      cases hreturns
    · rintro ⟨hmakes, -⟩
      exact absurd hmakes hcreate.2
  | ok tx s =>
    rw [hr] at hcreate
    obtain ⟨rfl, hmakes, -⟩ := hcreate
    rw [bind_ok hr]
    have hsent := broadcastFundingTx_run env ref tx (w.createFunding ref)
    cases hsendpsbt : env.sendpsbt with
    | true =>
      rw [hsendpsbt, if_pos rfl] at hsent
      rw [tryCatch_ok hsent]
      refine ⟨fun _ => ⟨hmakes, .inl rfl⟩, fun _ => ⟨rfl, .inl ⟨_, _, tx, ?_, .head _, hsendpsbt⟩⟩⟩
      show (((w.createFunding ref).assign ref _).heap ref).fundingTxid = some tx.txid
      rw [World.assign_heap_self]
    | false =>
      rw [hsendpsbt, if_neg Bool.false_ne_true] at hsent
      rw [tryCatch_error hsent]
      let t := (w.createFunding ref).send ref tx
      have hheap : t.heap ref = { w.heap ref with fundingTxid := some tx.txid } :=
        World.assign_heap_self ref _ (w.createFunding ref)
      have hholds : (final (failSwap env ref) t).getHoldInvoice payment_hash = some inv := by
        have hkept : Kept t (final (failSwap env ref) t) :=
          ((quiet_failSwap env t ref).final (Quiet.refl t)).toKept
        unfold World.getHoldInvoice
        rw [hkept.holdInvoices]
        show ((w.createFunding ref).assign ref _).holdInvoices.get? _ = some inv
        rw [World.assign_holdInvoices]
        exact hinv
      have hdirty : Dirty (hex (t.heap ref).paymentHash) w.db.calls w.running t := by
        rw [hheap]
        refine dirty_send hdb hnone ?_
        rw [← hkey, Dict.contains_iff]
        exact ⟨ref, href⟩
      have hfail := triple_failSwap env hdirty t rfl
      have hunfunded : ∀ w', ¬ FundedBy env ref w' := by
        rintro w' ⟨_, _, _, -, -, hsend⟩
        rw [hsendpsbt] at hsend
        cases hsend
      unfold final at hholds
      cases hf : failSwap env ref t with
      | error e s =>
        rw [hf] at hfail
        constructor
        · rintro ⟨hreturns, -⟩
          cases hreturns
        · rintro ⟨-, hsend | hnothing⟩
          · cases hsend
          · exact absurd ⟨hnothing.running, hnothing.write⟩ hfail
      | ok _ s =>
        rw [hf] at hfail hholds
        obtain ⟨⟨hrunning, hwrite⟩, hunwatched⟩ := hfail
        rw [hheap] at hunwatched
        constructor
        · rintro ⟨-, hfunded | hfailed⟩
          · exact absurd hfunded (hunfunded s)
          · exact ⟨hmakes, .inr ⟨hfailed.released inv hholds, hrunning, hwrite⟩⟩
        · rintro ⟨-, hsend | hnothing⟩
          · cases hsend
          · refine ⟨rfl, .inr ⟨hunwatched, fun inv' hinv' => ?_⟩⟩
            cases hholds.symm.trans hinv'
            exact hnothing.htlcs

end

section Sample

open Sample

attribute [local instance] Sample.deployment

/-- The client has paid both invoices of a swap of 50000 sat. -/
private def paidSwap : List Action :=
  boot ++ [.request Sample.env (createswap 50000), deliver 1 paymentHash 49728000,
    deliver 2 prepayHash 272000]

/-- With a wallet that answers, the swap is funded. -/
theorem funding_outcome_paid :
    TwoOutcomes Sample.env paymentHash 0 (runOf paidSwap World.start) :=
  (funding_outcome_iff (reachable_runOf paidSwap) Sample.env (by decide +kernel) (by decide +kernel)
    (Option.some_get (by decide +kernel : ((runOf paidSwap World.start).getHoldInvoice
      paymentHash).isSome = true)).symm).mpr
    ⟨⟨by decide +kernel, rfl, rfl⟩, .inl rfl⟩

/-- With a wallet that makes the transaction and does not send it, the HTLC stays held. -/
theorem funding_keeps_htlc :
    ∃ w, Reachable (fun _ _ => True) w ∧ w.swaps.get? (hex paymentHash) = some 0 ∧
      (w.heap 0).fundingTxid = none ∧
      (∃ inv, w.getHoldInvoice paymentHash = some inv ∧ inv.fundingStatus = .funded ∧
        ∀ h ∈ inv.incomingHtlcs.elems, h.state = .accepted → h.requestCallback.isSome = true) ∧
      ¬ TwoOutcomes { Sample.env with sendpsbt := false } paymentHash 0 w := by
  refine ⟨runOf paidSwap World.start, reachable_runOf _, by decide +kernel, by decide +kernel, ?_, ?_⟩
  · have hany : ((runOf paidSwap World.start).getHoldInvoice paymentHash).any (fun inv =>
        inv.fundingStatus = .funded ∧ ∀ h ∈ inv.incomingHtlcs.elems, h.state = .accepted →
          h.requestCallback.isSome = true) = true := by decide +kernel
    obtain ⟨inv, hinv, hok⟩ := (Option.any_eq_true _ _).mp hany
    exact ⟨inv, hinv, of_decide_eq_true hok⟩
  · rintro ⟨-, ⟨_, _, _, -, -, hsend⟩ | hfailed⟩
    · cases hsend
    · have hany : ((final (holdInvoiceCallback { Sample.env with sendpsbt := false } paymentHash)
          (runOf paidSwap World.start)).getHoldInvoice paymentHash).any (fun inv =>
            ∃ h ∈ inv.incomingHtlcs.elems, h.state = .accepted) = true := by decide +kernel
      obtain ⟨inv, hinv, hheld⟩ := (Option.any_eq_true _ _).mp hany
      obtain ⟨h, hmem, hstate⟩ := of_decide_eq_true hheld
      exact hfailed.released inv hinv h hmem hstate

end Sample

end SubswapProvider
