import SubswapProvider.Settling

/-!
# Forgetting a swap

A normal swap is forgotten when it is taken out of the table, or when its address is no longer
watched. Between the claim of the client and that moment lies the provider's only chance to settle
the hold invoice. Two exits of `_claim_swap` forget a swap without having settled anything: the
cleanup of an output that was spent more than 30 blocks ago, which does not look whether the swap
has been paid for, and the failure of a swap whose first listed output was spent without a preimage
(`claimSwap_drops_settled_iff`).
-/

namespace SubswapProvider

open Deployment Effect

/-- The hold invoice of the payment hash has been settled. -/
def World.Settled (w : World) (payment_hash : Bytes) : Prop :=
  ∃ preimage, Event.settled payment_hash preimage ∈ w.trace

/-- The swap is in the table, and its address is watched. -/
structure Here (swap : SwapData) (w : World) : Prop where
  stored : w.swaps.contains (hex swap.paymentHash) = true
  watched : w.lnwatcherCallbacks.contains swap.lockupAddress = true

/-- The swap is not in the table any more, or its address is not watched. -/
def Forgotten (swap : SwapData) (w : World) : Prop :=
  w.swaps.contains (hex swap.paymentHash) = false ∨
    w.lnwatcherCallbacks.contains swap.lockupAddress = false

theorem Here.not_forgotten {swap : SwapData} {w : World} (h : Here swap w) :
    ¬ Forgotten swap w := by
  rintro (hnone | hnone)
  · rw [h.stored] at hnone
    cases hnone
  · rw [h.watched] at hnone
    cases hnone

section

variable [Deployment]

/-- The output was spent by a transaction that shows the preimage. -/
def ClaimedBy (env : Env) (swap : SwapData) (own : PartialTxInput) : Prop :=
  own.spentHeight.isSome = true ∧ ∃ spent_txid claim_tx x, own.spentTxid = some spent_txid ∧
    (∀ fetched, env.transaction spent_txid = some fetched → fetched = some claim_tx) ∧
    sha256 x = swap.paymentHash ∧ ∃ witness ∈ claim_tx.witnesses, ∃ sig,
      witnessElements witness = some [sig, x, swap.redeemScript]

/-- The output looks refunded: it was spent, and the transaction shows no preimage. -/
def LooksRefunded (env : Env) (swap : SwapData) (txin : PartialTxInput) : Prop :=
  ∃ spent_height spent_txid claim_tx, txin.spentHeight = some spent_height ∧ 2 ≤ spent_height ∧
    txin.spentTxid = some spent_txid ∧ env.transaction spent_txid = some (some claim_tx) ∧
    PassesOver swap.paymentHash claim_tx.witnesses

/-- The call forgets the swap without settling: the output it follows was spent more than 30 blocks
ago, or looks refunded while no preimage is known. -/
def ForgetsUnsettled (env : Env) (w : World) (swap : SwapData) : Prop :=
  ∃ current_height txin, Selects env swap current_height txin ∧
    (env.confirmations txin.prevout.txid).isSome = true ∧
    (deeplySpent current_height txin = true ∨
      (swap.preimage = none ∧ w.invoicesToPay.isSome = true ∧ LooksRefunded env swap txin))

variable (env : Env) {swap : SwapData} {ref : SwapRef}

/-- The loop finds nothing exactly when it passes over every input. -/
theorem extractPreimage_eq_none_iff {payment_hash : Bytes} {witnesses : List (Option Bytes)} :
    extractPreimage payment_hash witnesses = .ok none ↔ PassesOver payment_hash witnesses := by
  induction witnesses with
  | nil => exact iff_of_true rfl fun witness hmem => by cases hmem
  | cons witness witnesses ih =>
    unfold extractPreimage PassesOver
    rw [List.forall_mem_cons]
    cases preimageOfWitness witness with
    | error e =>
      refine iff_of_false (fun h => by cases h) ?_
      rintro ⟨⟨y, hy, -⟩, -⟩
      cases hy
    | ok y =>
      dsimp only
      by_cases hy : sha256 y = payment_hash
      · refine iff_of_false (fun h => ?_) ?_
        · rw [if_pos hy] at h
          cases h
        · rintro ⟨⟨y', hy', hne⟩, -⟩
          cases hy'
          exact hne hy
      · rw [if_neg hy]
        exact ih.trans ⟨fun h => ⟨⟨y, rfl, hy⟩, h⟩, fun h => h.2⟩

/-! ## What forgets nothing -/

omit [Deployment] in
theorem Here.congr {w w' : World} (h : Here swap w) (hswaps : w'.swaps = w.swaps)
    (hwatched : w'.lnwatcherCallbacks = w.lnwatcherCallbacks) : Here swap w' :=
  ⟨by rw [hswaps]; exact h.stored, by rw [hwatched]; exact h.watched⟩

omit [Deployment] in
theorem here_same {α : Type} {x : PyM α} (h : ∀ w₀, Keeps (SwapsSame w₀) x) :
    Keeps (Here swap) x :=
  Keeps.of_rel h SwapsSame.refl fun _ _ hst hs => hs.congr hst.swaps hst.lnwatcherCallbacks

omit [Deployment] in
theorem here_assign (r : SwapRef) (f : SwapData → SwapData) :
    Keeps (Here swap) (modify (World.assign r f) : PyM PUnit) :=
  Keeps.modify fun _ h => h.congr (by simp) (by simp)

theorem here_takeRefund (r : SwapRef) (txin : PartialTxInput) (remaining_time conf : Int)
    (outcome : SpendOutcome) :
    Keeps (Here swap) (takeRefund env r txin remaining_time conf outcome) :=
  keeps_takeRefund env txin (fun _ => here_assign r _) (fun _ => here_same fun w₀ => same_emit w₀ _)
    _ _ _

/-- `_finish_normal_swap` settles before it forgets: where it does not get to settle, it leaves the
swap. -/
theorem finishNormalSwap_here_or_settles {w : World} (h : Here swap w)
    (hhash : (w.heap ref).paymentHash = swap.paymentHash) :
    Here swap (final (finishNormalSwap env ref) w) ∨
      ∃ preimage, Emits (finishNormalSwap env ref) w (.settled swap.paymentHash preimage) := by
  cases hhas : (w.heap ref).hasPreimage with
  | false =>
    have hrun : finishNormalSwap env ref w = .error .AssertionError w := by
      unfold finishNormalSwap
      rw [get_bind, hhas]
      rfl
    rw [show final (finishNormalSwap env ref) w = w by unfold final; rw [hrun]]
    exact .inl h
  | true =>
    obtain ⟨preimage, hpreimage⟩ : ∃ preimage, (w.heap ref).preimage = some preimage := by
      unfold SwapData.hasPreimage at hhas
      cases hpreimage : (w.heap ref).preimage with
      | none => rw [hpreimage] at hhas; cases hhas
      | some preimage => exact ⟨preimage, rfl⟩
    cases hinvoice : w.getHoldInvoice (w.heap ref).paymentHash with
    | none =>
      have hrun : final (finishNormalSwap env ref) w = w := by
        unfold final finishNormalSwap
        rw [get_bind, hhas, pyAssert_true, pure_bind, hinvoice]
        rfl
      rw [hrun]
      exact .inl h
    | some invoice =>
      have hkey : invoice.paymentHash = swap.paymentHash :=
        (hex_inj.mp (HoldInvoices.hex_paymentHash hinvoice)).trans hhash
      have hrun := finishNormalSwap_run env hhas hpreimage hinvoice
      have hsays := settleInvoice_says invoice preimage w w rfl
      have hsame : Keeps (Here swap) (settleInvoice invoice (some preimage)) :=
        here_same fun w₀ => same_settleInvoice w₀ _ _
      cases hsettle : settleInvoice invoice (some preimage) w with
      | error e s =>
        have hhere := hsame w h
        rw [hsettle] at hhere
        rw [final_congr hrun, final_bind_error hsettle]
        exact .inl hhere
      | ok a s =>
        rw [hsettle] at hsays
        obtain ⟨w', ⟨es, hes, -⟩, hs⟩ := hsays
        have htrace := (trace_afterSettling env (w.heap ref) s.trace).final (s := s) rfl
        have hfinal : (final (finishNormalSwap env ref) w).trace
            = (.settled invoice.paymentHash preimage :: es) ++ w.trace := by
          rw [final_congr hrun, final_bind_ok hsettle]
          exact htrace.trans (hs.trans (by rw [hes]; rfl))
        refine .inr ⟨preimage, (emits_of_trace hfinal _).mpr ?_⟩
        rw [hkey]
        exact List.mem_cons_self

/-! ## The branches of the call -/

/-- The address is not watched. -/
def Unwatched (address : Address) (w : World) : Prop :=
  w.lnwatcherCallbacks.contains address = false

omit [Deployment] in
theorem unwatched_removeCallback (address : Address) {P : World → Prop} {E : PyErr → World → Prop} :
    Triple P (removeCallback address) (fun _ => Unwatched address) E :=
  Triple.modify fun w _ => by
    show (w.lnwatcherCallbacks.pop address).contains address = false
    rw [Dict.contains, Dict.get?_pop_self]
    rfl

omit [Deployment] in
theorem unwatched_dbWrite (address : Address) : Keeps (Unwatched address) (dbWrite env) :=
  Keeps.of_rel (same_dbWrite env) SwapsSame.refl fun _ _ hst hs => by
    unfold Unwatched
    rw [hst.lnwatcherCallbacks]
    exact hs

omit [Deployment] in
theorem unwatched_popSwap (address : Address) (k : Hex) :
    Keeps (Unwatched address) (modify (World.popSwap k) : PyM PUnit) :=
  Keeps.modify fun w h => by
    unfold World.popSwap
    split
    · exact h
    · exact h

omit [Deployment] in
theorem unwatched_popInvoiceToPay (address : Address) (k : Hex) :
    Keeps (Unwatched address) (popInvoiceToPay k) := by
  refine Keeps.get fun w => ?_
  split
  · exact Keeps.throw
  · exact Keeps.modify fun _ h => h

omit [Deployment] in
/-- Without a write, `delete_invoice` does not raise. -/
theorem deleteInvoice_returns {I : World → Prop} (k : Hex) (hI : ∀ w, I w → I (w.popInvoice k)) :
    Triple I (deleteInvoice env k false) (fun _ => I) (fun _ _ => False) := by
  intro w hw
  unfold deleteInvoice
  rw [get_bind]
  by_cases hk : w.invoices.contains k = true
  · rw [if_pos hk]
    exact hI w hw
  · rw [if_neg hk]
    exact hw

omit [Deployment] in
/-- The cleanup stops watching the address first. -/
theorem deleteFinishedReverseSwap_unwatched (ref : SwapRef) (w : World) :
    Unwatched (w.heap ref).lockupAddress (final (deleteFinishedReverseSwap env ref) w) := by
  have htriple : Triple (· = w) (deleteFinishedReverseSwap env ref)
      (fun _ => Unwatched (w.heap ref).lockupAddress)
      (fun _ => Unwatched (w.heap ref).lockupAddress) := by
    refine Triple.getBind fun s hs => ?_
    subst hs
    refine Triple.bind (R := fun _ _ => True) ?_ fun _ =>
      Triple.bind (unwatched_removeCallback _) fun _ =>
      Keeps.bind (unwatched_popInvoiceToPay _ _) fun _ =>
      Keeps.bind (Keeps.ite (unwatched_popSwap _ _) Keeps.pure) fun _ => unwatched_dbWrite env _
    exact (deleteInvoice_returns env (I := fun _ => True) _ fun _ _ => trivial).conseq
      (fun _ _ => trivial) (fun _ _ h => h) fun _ _ h => h.elim
  exact htriple.final rfl

omit [Deployment] in
theorem failSwap_run (w : World) :
    failSwap env ref w = (do
      deleteInvoice env (hex (w.heap ref).paymentHash) false
      popInvoiceToPay (hex (w.heap ref).paymentHash)
      removeCallback (w.heap ref).lockupAddress
      (if (w.heap ref).fundingTxid.isNone || (w.heap ref).isRedeemed
        then popSwapOrRaise (hex (w.heap ref).paymentHash) else pure ())
      dbWrite env : PyM Unit) w := by
  have hbranch : (!(w.heap ref).isReverse &&
      (PyKey.bytes (w.heap ref).paymentHash).isIn w.holdInvoiceCallbacks) = false :=
    Bool.and_false _
  unfold failSwap
  rw [get_bind]
  simp only [hbranch, Bool.false_eq_true, if_false, bind_assoc]

omit [Deployment] in
/-- A refund forgets the swap where the table of outgoing invoices exists. -/
theorem failSwap_unwatched (address : Address) :
    Triple (fun s => (s.heap ref).lockupAddress = address ∧ s.invoicesToPay.isSome = true)
      (failSwap env ref) (fun _ => Unwatched address) (fun _ => Unwatched address) := by
  rintro w ⟨rfl, htoPay⟩
  rw [failSwap_run]
  refine Triple.bind (R := fun _ s => s.invoicesToPay.isSome = true)
    ((deleteInvoice_returns env _ fun s h => ?_).conseq (fun _ h => h)
      (fun _ _ h => h) fun _ _ h => h.elim) (fun _ =>
    Triple.bind (R := fun _ _ => True) (Triple.getBind fun s hs => ?_) fun _ =>
    Triple.bind (unwatched_removeCallback _) fun _ =>
    Keeps.bind (Keeps.ite (Keeps.get fun _ => Keeps.ite (unwatched_popSwap _ _) Keeps.throw)
      Keeps.pure) fun _ => unwatched_dbWrite env _) w htoPay
  · unfold World.popInvoice
    split
    · exact h
    · exact h
  · cases hsome : s.invoicesToPay with
    | none => rw [hsome] at hs; cases hs
    | some toPay => exact fun _ _ => trivial

omit [Deployment] in
/-- Where it does not, the call that pops from it comes before anything is forgotten. -/
theorem failSwap_here :
    Triple (fun s => Here swap s ∧ s.invoicesToPay = none) (failSwap env ref)
      (fun _ => Here swap) (fun _ => Here swap) := by
  intro w hw
  rw [failSwap_run]
  refine Triple.bind (R := fun _ s => Here swap s ∧ s.invoicesToPay = none)
    ((deleteInvoice_returns env _ fun s hs => ?_).conseq (fun _ h => h)
      (fun _ _ h => h) fun _ _ h => h.elim) (fun _ => ?_) w hw
  · unfold World.popInvoice
    split
    · exact ⟨hs.1.congr rfl rfl, hs.2⟩
    · exact hs
  · refine Triple.bind (R := fun _ _ => False) (Triple.getBind fun s hs => ?_) fun _ _ h => h.elim
    rw [hs.2]
    exact fun t ht => ht ▸ hs.1

/-- A spend without a preimage leaves the swap, unless it is taken for a refund. -/
theorem here_handleExtracted_none (spent_height : Nat) (claim_tx : Transaction) :
    Triple (fun s => Here swap s ∧ (2 ≤ spent_height → s.invoicesToPay = none))
      (handleExtracted env ref spent_height claim_tx none)
      (fun _ => Here swap) (fun _ => Here swap) := by
  show Triple _ (if 2 ≤ spent_height then _ else _ : PyM SpendOutcome) _ _
  split
  · next hheight =>
    refine Triple.modifyBind (R := fun s => Here swap s ∧ s.invoicesToPay = none)
      (fun s hs => ⟨hs.1.congr (by simp) (by simp), by simp [hs.2 hheight]⟩) ?_
    exact Triple.bind (failSwap_here env) fun _ => Keeps.pure
  · exact Triple.pre (R := Here swap)
      (Keeps.ite (Keeps.bind (keeps_orRaise _ _) fun _ => Keeps.pure) Keeps.pure) fun _ h => h.1

/-- Without the spending transaction there is nothing to look at. -/
theorem inspectSpend_raises {txin : PartialTxInput} (r : SwapRef)
    (h : ¬ ∃ claim_tx spent_txid, txin.spentTxid = some spent_txid ∧
      env.transaction spent_txid = some (some claim_tx)) (spent_height : Nat) (w : World) :
    ∃ e, inspectSpend env r txin spent_height w = .error e w := by
  unfold inspectSpend
  rw [get_bind]
  cases htxid : txin.spentTxid with
  | none => exact ⟨_, rfl⟩
  | some spent_txid =>
    rw [orRaise_some, pure_bind]
    cases htx : env.transaction spent_txid with
    | none => exact ⟨_, rfl⟩
    | some fetched =>
      cases fetched with
      | none => exact ⟨_, rfl⟩
      | some claim_tx => exact absurd ⟨claim_tx, spent_txid, htxid, htx⟩ h

/-- The part for normal swaps forgets the swap after it has settled, or takes it for refunded. -/
theorem claimNormal_here_or_settles {w : World} {txin : PartialTxInput} (h : Here swap w)
    (hhash : (w.heap ref).paymentHash = swap.paymentHash)
    (hnot : ¬ ((w.heap ref).preimage = none ∧ w.invoicesToPay.isSome = true ∧
      LooksRefunded env (w.heap ref) txin)) (remaining_time conf : Int) :
    Here swap (final (claimNormal env ref txin remaining_time conf) w) ∨
      ∃ preimage, Emits (claimNormal env ref txin remaining_time conf) w
        (.settled swap.paymentHash preimage) := by
  have hgoOn : claimNormal env ref txin remaining_time conf w
        = takeRefund env ref txin remaining_time conf (.goOn false) w →
      Here swap (final (claimNormal env ref txin remaining_time conf) w) := by
    intro hrun
    rw [final_congr hrun]
    exact (here_takeRefund env ref txin remaining_time conf _).final h
  have hraises : (∃ e, claimNormal env ref txin remaining_time conf w = .error e w) →
      Here swap (final (claimNormal env ref txin remaining_time conf) w) := by
    rintro ⟨e, hrun⟩
    unfold final
    rw [hrun]
    exact h
  cases hpreimage : (w.heap ref).preimage with
  | some p =>
    refine .inl (hgoOn ?_)
    unfold claimNormal
    rw [get_bind, hpreimage]
    rfl
  | none =>
    cases hspent : txin.spentHeight with
    | none =>
      refine .inl (hgoOn ?_)
      unfold claimNormal
      rw [get_bind, hpreimage, hspent]
      rfl
    | some spent_height =>
      by_cases hfetched : ∃ claim_tx spent_txid, txin.spentTxid = some spent_txid ∧
          env.transaction spent_txid = some (some claim_tx)
      · obtain ⟨claim_tx, hfetched⟩ := hfetched
        have hrun := claimNormal_unknown env hpreimage hspent hfetched remaining_time conf
        cases hextract : extractPreimage (w.heap ref).paymentHash claim_tx.witnesses with
        | error e =>
          rw [hextract] at hrun
          exact .inl (hraises ⟨e, hrun⟩)
        | ok extracted =>
          cases extracted with
          | some y =>
            have hfinal := final_claimNormal_found env hpreimage hspent hfetched remaining_time conf
              hextract
            generalize hw₂ : w.assign ref (fun swap => { swap with preimage := some y }) = w₂
              at hfinal
            have htrace : w₂.trace = w.trace := by rw [← hw₂, World.assign_trace]
            have hhere : Here swap w₂ := by
              rw [← hw₂]
              exact h.congr (by simp) (by simp)
            have hhash₂ : (w₂.heap ref).paymentHash = swap.paymentHash := by
              rw [← hw₂, World.assign_heap_self]
              exact hhash
            unfold Emits
            rw [hfinal, ← htrace]
            exact finishNormalSwap_here_or_settles env hhere hhash₂
          | none =>
            have htoPay : 2 ≤ spent_height → w.invoicesToPay = none := by
              intro hheight
              obtain ⟨spent_txid, htxid, htx⟩ := hfetched
              by_contra hsome
              exact hnot ⟨hpreimage, Option.isSome_iff_ne_none.mpr hsome, spent_height, spent_txid,
                claim_tx, hspent, hheight, htxid, htx, extractPreimage_eq_none_iff.mp hextract⟩
            have hkeeps : Triple (fun s => Here swap s ∧ (2 ≤ spent_height → s.invoicesToPay = none))
                (liftExcept (.ok none) >>= handleExtracted env ref spent_height claim_tx >>=
                  takeRefund env ref txin remaining_time conf)
                (fun _ => Here swap) (fun _ => Here swap) := by
              rw [show (liftExcept (.ok none) : PyM (Option Bytes)) = pure none from rfl, pure_bind]
              exact Triple.bind (here_handleExtracted_none env spent_height claim_tx)
                fun outcome => here_takeRefund env ref txin remaining_time conf outcome
            rw [hextract] at hrun
            rw [final_congr hrun]
            exact .inl (hkeeps.final ⟨h, htoPay⟩)
      · obtain ⟨e, hinspect⟩ := inspectSpend_raises env ref hfetched spent_height w
        refine .inl (hraises ⟨e, ?_⟩)
        unfold claimNormal
        rw [get_bind, hpreimage, hspent]
        exact bind_error hinspect

/-- A spend that looks like a refund makes the swap forgotten, and settles nothing. -/
theorem claimNormal_refunded {w : World} {txin : PartialTxInput}
    (hunknown : (w.heap ref).preimage = none) (htoPay : w.invoicesToPay.isSome = true)
    (hrefund : LooksRefunded env (w.heap ref) txin) (remaining_time conf : Int) :
    Unwatched (w.heap ref).lockupAddress
        (final (claimNormal env ref txin remaining_time conf) w) ∧
      SaysOnly Event.SettlesNone w (final (claimNormal env ref txin remaining_time conf) w) := by
  obtain ⟨spent_height, spent_txid, claim_tx, hspent, hheight, htxid, htx, hpasses⟩ := hrefund
  have hextract := extractPreimage_eq_none_iff.mpr hpasses
  have hfetched : ∃ spent_txid, txin.spentTxid = some spent_txid ∧
      env.transaction spent_txid = some (some claim_tx) := ⟨spent_txid, htxid, htx⟩
  refine ⟨?_, claimNormal_silent env hunknown hspent hfetched remaining_time conf hextract⟩
  have hrun := claimNormal_unknown env hunknown hspent hfetched remaining_time conf
  rw [hextract] at hrun
  have hhandle : Triple (fun s => (s.heap ref).lockupAddress = (w.heap ref).lockupAddress ∧
      s.invoicesToPay.isSome = true) (handleExtracted env ref spent_height claim_tx none)
      (fun outcome s => outcome = .refunded ∧ Unwatched (w.heap ref).lockupAddress s)
      (fun _ => Unwatched (w.heap ref).lockupAddress) := by
    show Triple _ (if 2 ≤ spent_height then _ else _ : PyM SpendOutcome) _ _
    rw [if_pos hheight]
    refine Triple.modifyBind (R := fun s =>
      (s.heap ref).lockupAddress = (w.heap ref).lockupAddress ∧ s.invoicesToPay.isSome = true)
      (fun s hs => ⟨by rw [World.assign_heap_self]; exact hs.1, by simpa using hs.2⟩) ?_
    exact Triple.bind (failSwap_unwatched env _) fun _ => Triple.pure fun _ h => ⟨rfl, h⟩
  have htriple : Triple (fun s => (s.heap ref).lockupAddress = (w.heap ref).lockupAddress ∧
      s.invoicesToPay.isSome = true)
      (liftExcept (.ok none) >>= handleExtracted env ref spent_height claim_tx >>=
        takeRefund env ref txin remaining_time conf)
      (fun _ => Unwatched (w.heap ref).lockupAddress)
      (fun _ => Unwatched (w.heap ref).lockupAddress) := by
    rw [show (liftExcept (.ok none) : PyM (Option Bytes)) = pure none from rfl, pure_bind]
    refine Triple.bind hhandle fun outcome => ?_
    rintro s ⟨rfl, hs⟩
    exact hs
  rw [final_congr hrun]
  exact htriple.final ⟨rfl, htoPay⟩

/-! ## The call -/

omit [Deployment] in
theorem Located.here {w w' : World} {txin : PartialTxInput} (h : Located ref txin w w')
    (hhere : Here swap w) : Here swap w' := by
  refine ⟨?_, by rw [h.lnwatcherCallbacks]; exact hhere.watched⟩
  obtain ⟨r, hr⟩ := Dict.contains_iff.mp hhere.stored
  exact Dict.contains_iff.mpr ⟨r, h.swaps _ r hr⟩

/-- A call that forgets unsettled forgets, and settles nothing. -/
theorem ForgetsUnsettled.run {w : World} (hnormal : (w.heap ref).isReverse = false)
    (h : ForgetsUnsettled env w (w.heap ref)) :
    Forgotten (w.heap ref) (final (claimSwap env ref) w) ∧
      SaysOnly Event.SettlesNone w (final (claimSwap env ref) w) := by
  obtain ⟨current_height, txin, hselects, hconf, hwhy⟩ := h
  obtain ⟨conf, w', hw', hrun⟩ := hselects.run hconf
  obtain ⟨hnormal', hhash, hpreimage, haddress, hlocktime⟩ := hw'.heap
  suffices hgoal : Unwatched (w'.heap ref).lockupAddress (final (claimSwap env ref) w) ∧
      SaysOnly Event.SettlesNone w' (final (claimSwap env ref) w) by
    obtain ⟨hunwatched, es, hes, hnone⟩ := hgoal
    rw [haddress] at hunwatched
    exact ⟨.inr hunwatched, es, by rw [hes, hw'.trace], hnone⟩
  rw [final_congr hrun]
  by_cases hdeep : deeplySpent current_height txin = true
  · have hcleanup : final (claimLocated env ref current_height txin conf) w'
        = final (deleteFinishedReverseSwap env ref)
          (w'.assign ref fun swap => { swap with isRedeemed := true }) := by
      unfold claimLocated final
      rw [get_bind, if_pos hdeep, modify_bind]
    have hunwatched : Unwatched (w'.heap ref).lockupAddress (final (deleteFinishedReverseSwap env ref)
        (w'.assign ref fun swap => { swap with isRedeemed := true })) := by
      have h := deleteFinishedReverseSwap_unwatched env ref
        (w'.assign ref fun swap => { swap with isRedeemed := true })
      rw [World.assign_heap_self] at h
      exact h
    rw [hcleanup]
    refine ⟨hunwatched, SaysOnly.of_eq ?_⟩
    have hquiet := (quiet_deleteFinishedReverseSwap env
      (w'.assign ref fun swap => { swap with isRedeemed := true }) ref).final (Quiet.refl _)
    exact hquiet.trace.trans (World.assign_trace _ _ _)
  · obtain ⟨hunknown, htoPay, hrefund⟩ := hwhy.resolve_left hdeep
    have hlook : LooksRefunded env (w'.heap ref) txin := by
      unfold LooksRefunded
      rw [hhash]
      exact hrefund
    rw [final_congr (claimLocated_normal (by simpa using hdeep) (hnormal'.trans hnormal))]
    exact claimNormal_refunded env (hpreimage.trans hunknown)
      (by rw [hw'.invoicesToPay]; exact htoPay) hlook _ _

/-- Any other call keeps the swap, or settles. -/
theorem claimSwap_here_or_settles {w : World} (hnormal : (w.heap ref).isReverse = false)
    (hhere : Here (w.heap ref) w)
    (hlisted : ∀ txos, env.addrOutputs (w.heap ref).lockupAddress = some txos → txos ≠ [])
    (hnot : ¬ ForgetsUnsettled env w (w.heap ref)) :
    Here (w.heap ref) (final (claimSwap env ref) w) ∨
      ∃ preimage, Emits (claimSwap env ref) w
        (.settled (w.heap ref).paymentHash preimage) := by
  by_cases hselects : ∃ current_height txin, Selects env (w.heap ref) current_height txin
  · obtain ⟨current_height, txin, hselects⟩ := hselects
    by_cases hconf : (env.confirmations txin.prevout.txid).isSome = true
    · obtain ⟨conf, w', hw', hrun⟩ := hselects.run hconf
      obtain ⟨hnormal', hhash, hpreimage, haddress, hlocktime⟩ := hw'.heap
      have hdeep : deeplySpent current_height txin = false := by
        by_contra hdeep
        exact hnot ⟨current_height, txin, hselects, hconf, .inl (by simpa using hdeep)⟩
      have hrefund : ¬ ((w'.heap ref).preimage = none ∧ w'.invoicesToPay.isSome = true ∧
          LooksRefunded env (w'.heap ref) txin) := by
        rintro ⟨hunknown, htoPay, hlook⟩
        unfold LooksRefunded at hlook
        rw [hhash] at hlook
        exact hnot ⟨current_height, txin, hselects, hconf, .inr ⟨hpreimage.symm.trans hunknown,
          by rw [← hw'.invoicesToPay]; exact htoPay, hlook⟩⟩
      have hnormalRun : claimLocated env ref current_height txin conf w'
          = claimNormal env ref txin ((w'.heap ref).locktime - current_height) conf w' :=
        claimLocated_normal hdeep (hnormal'.trans hnormal)
      have hgoal := claimNormal_here_or_settles env (hw'.here hhere) hhash hrefund
        ((w'.heap ref).locktime - current_height) conf
      unfold Emits at hgoal ⊢
      rw [final_congr (hrun.trans hnormalRun), ← hw'.trace]
      exact hgoal
    · left
      obtain ⟨w', hw', hrun⟩ := claimFunded_run env ref current_height txin w
      obtain ⟨-, hrun⟩ | ⟨conf, hsome, -⟩ := hrun
      · have hfinal : final (claimSwap env ref) w = w' := by
          unfold final
          rw [claimSwap_selects hselects, hrun]
        rw [hfinal]
        exact hw'.here hhere
      · rw [hsome] at hconf
        exact absurd rfl hconf
  · left
    obtain ⟨-, hsame | ⟨txos, htxos, hnone⟩⟩ := claimSwap_idle hselects
    · rw [hsame]
      exact hhere
    · cases txos with
      | nil => exact absurd rfl (hlisted [] htxos)
      | cons txin txos =>
        unfold selectTxo at hnone
        rw [hnormal] at hnone
        cases hnone

end

/-- **When a claimed swap is dropped unpaid.** The swap was in the table and watched, and its lockup
output has been spent with the preimage. After a call it is forgotten only when the hold invoice has
been settled, now or earlier, exactly when it had been settled before or the call does not forget it
unsettled. -/
theorem claimSwap_forgets_settled_iff [Deployment] (env : Env) (w : World) (ref : SwapRef)
    (hnormal : (w.heap ref).isReverse = false) (hhere : Here (w.heap ref) w)
    (hclaimed : ∀ txos, env.addrOutputs (w.heap ref).lockupAddress = some txos →
      ∃ own ∈ txos, ClaimedBy env (w.heap ref) own) :
    (Forgotten (w.heap ref) (final (claimSwap env ref) w) →
        w.Settled (w.heap ref).paymentHash ∨ ∃ preimage, Emits (claimSwap env ref) w
          (.settled (w.heap ref).paymentHash preimage)) ↔
      w.Settled (w.heap ref).paymentHash ∨ ¬ ForgetsUnsettled env w (w.heap ref) := by
  have hlisted : ∀ txos, env.addrOutputs (w.heap ref).lockupAddress = some txos → txos ≠ [] := by
    rintro txos htxos rfl
    obtain ⟨own, hmem, -⟩ := hclaimed [] htxos
    cases hmem
  constructor
  · intro h
    by_cases hforgets : ForgetsUnsettled env w (w.heap ref)
    · obtain ⟨hforgotten, hsays⟩ := hforgets.run env hnormal
      refine .inl ((h hforgotten).resolve_right ?_)
      rintro ⟨preimage, hemits⟩
      exact hsays.not_emits (fun hnone => hnone _ _ rfl) hemits
    · exact .inr hforgets
  · rintro (hsettled | hnot) hforgotten
    · exact .inl hsettled
    · rcases claimSwap_here_or_settles env hnormal hhere hlisted hnot with hhere' | hemits
      · exact absurd hforgotten hhere'.not_forgotten
      · exact .inr hemits

section Sample

open Sample

attribute [local instance] Sample.deployment

/-- The client's claim of the lockup output, found in the block at a height. -/
def claimedEnv (spent_height : Nat) : Env :=
  spentEnv spent_height [some (claimWitnessOf afterFunding 0)]

theorem claimedEnv_shows : ∃ sig, witnessElements (some (claimWitnessOf afterFunding 0))
    = some [sig, Sample.preimage, (afterFunding.heap 0).redeemScript] :=
  ⟨_, witnessElements_claimWitnessOf (by decide +kernel)⟩

/-- The lockup output has been spent with the preimage. -/
theorem claimedEnv_claimed (spent_height : Nat) (address : Address) (txos : List PartialTxInput)
    (htxos : (claimedEnv spent_height).addrOutputs address = some txos) :
    ∃ own ∈ txos, ClaimedBy (claimedEnv spent_height) (afterFunding.heap 0) own := by
  cases htxos
  refine ⟨_, List.mem_singleton_self _, rfl, _, _, Sample.preimage, rfl,
    fun fetched hfetched => (Option.some.inj hfetched).symm, by decide +kernel, _,
    List.mem_singleton_self _, claimedEnv_shows⟩

theorem afterFunding_here : Here (afterFunding.heap 0) afterFunding where
  stored := by decide +kernel
  watched := by decide +kernel

/-- A claim in the newest block: the swap is forgotten, and the invoice settled. -/
theorem claimSwap_forgets_settled_fresh :
    Forgotten (afterFunding.heap 0) (final (claimSwap (claimedEnv 900000) 0) afterFunding) ∧
      (afterFunding.Settled (afterFunding.heap 0).paymentHash ∨
        ∃ preimage, Emits (claimSwap (claimedEnv 900000) 0) afterFunding
          (.settled (afterFunding.heap 0).paymentHash preimage)) := by
  have hforgotten :
      Forgotten (afterFunding.heap 0) (final (claimSwap (claimedEnv 900000) 0) afterFunding) :=
    .inl (by decide +kernel)
  refine ⟨hforgotten, (claimSwap_forgets_settled_iff (claimedEnv 900000) afterFunding 0
    (by decide +kernel) afterFunding_here (claimedEnv_claimed 900000 _)).mpr (.inr ?_) hforgotten⟩
  rintro ⟨current_height, txin, hselects, -, hwhy⟩
  obtain ⟨hheight, htxin⟩ := (selects_spentEnv (afterFunding.heap 0) (by decide +kernel) 900000
    [some (claimWitnessOf afterFunding 0)]).unique hselects
  subst hheight htxin
  rcases hwhy with hdeep | ⟨-, -, spent_height, spent_txid, claim_tx, -, -, -, htx, hpasses⟩
  · exact absurd hdeep (by decide)
  · cases htx
    obtain ⟨y, hy, hne⟩ := hpasses _ (List.mem_singleton_self _)
    obtain ⟨sig, helements⟩ := claimedEnv_shows
    unfold preimageOfWitness at hy
    rw [helements] at hy
    cases hy
    exact hne (by decide +kernel)

/-- The payment hash that is settled. -/
def Event.settledHash? : Event → Option Bytes
  | .settled payment_hash _ => some payment_hash
  | _ => none

/-- A claim that the plugin sees only after 1000 blocks: the swap is no longer watched, and nothing
has been settled. -/
theorem claimSwap_forgets_unsettled :
    ∃ (env : Env) (w : World) (ref : SwapRef), Reachable (fun _ _ => True) w ∧
      (w.heap ref).isReverse = false ∧ Here (w.heap ref) w ∧
      (∀ txos, env.addrOutputs (w.heap ref).lockupAddress = some txos →
        ∃ own ∈ txos, ClaimedBy env (w.heap ref) own) ∧
      Forgotten (w.heap ref) (final (claimSwap env ref) w) ∧
      ¬ w.Settled (w.heap ref).paymentHash ∧
      ∀ preimage, ¬ Emits (claimSwap env ref) w (.settled (w.heap ref).paymentHash preimage) := by
  have hforgets : ForgetsUnsettled (claimedEnv 899000) afterFunding (afterFunding.heap 0) := by
    have hselects := selects_spentEnv (afterFunding.heap 0) (by decide +kernel) 899000
      [some (claimWitnessOf afterFunding 0)]
    exact ⟨900000, spentOutput 899000, hselects, rfl, .inl (by decide)⟩
  have hnormal : (afterFunding.heap 0).isReverse = false := by decide +kernel
  obtain ⟨hforgotten, hsays⟩ := hforgets.run _ hnormal
  refine ⟨claimedEnv 899000, afterFunding, 0, reachable_runOf _, hnormal, afterFunding_here,
    claimedEnv_claimed 899000 _, hforgotten, ?_, fun preimage => hsays.not_emits fun h => h _ _ rfl⟩
  have hnone : (afterFunding.trace.all
      fun e => e.settledHash? ≠ some (afterFunding.heap 0).paymentHash) = true := by decide +kernel
  rintro ⟨preimage, hmem⟩
  exact of_decide_eq_true (List.all_eq_true.mp hnone _ hmem) rfl

end Sample

end SubswapProvider
