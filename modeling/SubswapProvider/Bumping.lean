import SubswapProvider.Settling

/-!
# A refund that does not confirm

`_claim_swap` means to replace a refund of its own whose fee has become too low. The fee is asked of the
refund as it was fetched, and a fetched transaction does not know what its inputs are worth: `get_fee` is
`None`, and the comparison raises. So a refund that is unconfirmed is never replaced
(`BumpsRefund.not_low`).

What a call broadcasts otherwise is a refund of the output listed first, whoever has paid it
(`claimSwap_refunds_iff`). So a stuck refund is handled as it should be exactly when nothing has to be
done about it and the output listed first gives no occasion for another one (`refund_bumped_iff`).
-/

namespace SubswapProvider

open Deployment Effect

/-- The event broadcasts no claim or refund transaction. -/
def Event.BroadcastsNone (e : Event) : Prop := ∀ tx, e ≠ .broadcastRawTransaction tx

section

variable [Deployment] {env : Env} {ref : SwapRef} {w w₀ : World}

/-! ## The refund -/

/-- A transaction as bitcoind gives it out again. -/
def PartialTransaction.fetched (tx : PartialTransaction) : Transaction where
  witnesses := [some tx.witness]
  outputValues := [tx.value]

/-- A normal swap whose locktime has passed. The lockup output `own` is listed, at any place, and
spent by a refund of the swap that is not confirmed yet, and by nothing else. -/
structure StuckRefund (env : Env) (swap : SwapData) (current_height : Nat) (own : PartialTxInput)
    (refund : PartialTransaction) : Prop where
  upToDate : env.isUpToDate = some true
  height : env.localHeight = some current_height
  normal : swap.isReverse = false
  unknown : swap.preimage = none
  expired : swap.locktime ≤ current_height
  listed : ∃ txos, env.addrOutputs swap.lockupAddress = some txos ∧ own ∈ txos ∧
    ∀ txin ∈ txos, txin.prevout = own.prevout → txin = own
  unconfirmed : own.spentHeight = some 0
  spender : own.spentTxid = some refund.id
  prevout : refund.prevout = own.prevout
  address : refund.address = swap.receiveAddress
  locktime : refund.locktime = swap.locktime
  signed : ∃ sig, swap.claimWitness sig = some refund.witness
  found : env.transaction refund.id = some (some refund.fetched)

/-- The fee of an unconfirmed transaction that spends `txin` is known, and too low. -/
def SpentTooCheap (env : Env) (txin : PartialTxInput) : Prop :=
  txin.spentHeight = some 0 ∧ ∃ spent_txid claim_tx fee, txin.spentTxid = some spent_txid ∧
    env.transaction spent_txid = some (some claim_tx) ∧ claim_tx.getFee = some fee ∧
    fee * 11 < (getClaimFee env : Int) * 10

/-- The output listed first gives occasion for a refund: it is confirmed and worth one, and it is not
spent, or too cheap. -/
structure RefundsFirst (env : Env) (swap : SwapData) (first : PartialTxInput) : Prop where
  listed : ∃ txos, env.addrOutputs swap.lockupAddress = some (first :: txos)
  confirmed : ∃ conf, env.confirmations first.prevout.txid = some conf ∧ 0 < conf
  worth : dustThreshold ≤ first.valueSats - getFee env CLAIM_FEE_SIZE
  unspent : first.spentHeight = none ∨ SpentTooCheap env first

/-- `tx` spends the same output as the refund does, to the same end, for a higher fee. -/
structure Replaces (swap : SwapData) (value : Int) (refund tx : PartialTransaction) : Prop where
  prevout : tx.prevout = refund.prevout
  address : tx.address = swap.receiveAddress
  locktime : tx.locktime = swap.locktime
  signed : swap.claimWitness (signTxin tx.prevout tx.address tx.value tx.locktime swap.privkey)
    = some tx.witness
  fee : value - refund.value < value - tx.value

/-- The recommended fee is more than 1.1 times the fee of a transaction that spends `value`. -/
def FeeTooLow (env : Env) (value : Int) (refund : PartialTransaction) : Prop :=
  (value - refund.value) * 11 < (getClaimFee env : Int) * 10

/-- What a call should do about a refund of an output of this value: replace it, or leave it. -/
def BumpsRefund (env : Env) (ref : SwapRef) (w : World) (value : Int) (refund : PartialTransaction) :
    Prop :=
  (FeeTooLow env value refund → ∃ tx, Emits (claimSwap env ref) w (.broadcastRawTransaction tx) ∧
    Replaces (w.heap ref) value refund tx) ∧
  (¬ FeeTooLow env value refund → ∀ tx, ¬ Emits (claimSwap env ref) w (.broadcastRawTransaction tx))

/-! ## What a call does -/

theorem says_settleInvoice_none (invoice : HoldInvoice) (preimage : Option Bytes) (w₀ : World) :
    Keeps (SaysOnly Event.BroadcastsNone w₀) (settleInvoice invoice preimage) := by
  cases preimage with
  | none => exact Keeps.throw
  | some preimage =>
    refine Keeps.bind (keeps_pyAssert _) fun _ => Keeps.bind (Keeps.ite Keeps.pure Keeps.throw) fun _ =>
      Keeps.bind (Keeps.forM fun htlc _ => ?_) fun _ => Keeps.bind (Keeps.modify fun _ h => h) fun _ => ?_
    · exact Keeps.ite (says_settleHtlc (fun _ _ => by simp) (fun _ _ => by simp) _ _ w₀) Keeps.pure
    · exact says_emit (fun _ => by simp) w₀

theorem says_finishNormalSwap_none (env : Env) (ref : SwapRef) (w₀ : World) :
    Keeps (SaysOnly Event.BroadcastsNone w₀) (finishNormalSwap env ref) := by
  refine Keeps.get fun w => Keeps.bind (keeps_pyAssert _) fun _ => ?_
  split
  · exact Keeps.throw
  · refine Keeps.bind (says_settleInvoice_none _ _ w₀) fun _ => ?_
    exact Keeps.of_rel (R := fun s t => t.trace = s.trace)
      (fun s => trace_afterSettling env (w.heap ref) s.trace) (fun _ => rfl)
      fun _ _ hst hs => hs.same hst

variable {txin : PartialTxInput}

/-- **The look at the transaction that spends an output broadcasts nothing**, and asks for a refund
only where that transaction is too cheap. -/
theorem says_inspectSpend {spent_height : Nat} (hspent : txin.spentHeight = some spent_height) :
    Triple (SaysOnly Event.BroadcastsNone w₀) (inspectSpend env ref txin spent_height)
      (fun outcome s => SaysOnly Event.BroadcastsNone w₀ s ∧
        (outcome = .goOn true → SpentTooCheap env txin))
      (fun _ => SaysOnly Event.BroadcastsNone w₀) := by
  have hkeep : ∀ s, SaysOnly Event.BroadcastsNone w₀ s → SaysOnly Event.BroadcastsNone w₀ s :=
    fun _ h => h
  refine Triple.getBind fun s hs => Triple.pre ?_ fun s' (hs' : s' = s) => hs'.symm ▸ hs
  refine triple_orRaise hkeep fun spent_txid hspender => triple_orRaise hkeep fun fetched htx =>
    triple_orRaise hkeep fun claim_tx hfetched => ?_
  cases extractPreimage (s.heap ref).paymentHash claim_tx.witnesses with
  | error e => exact fun s' hs' => hs'
  | ok found =>
    cases found with
    | some preimage =>
      -- the swap is settled, not refunded
      show Triple _ (modify _ >>= fun _ => finishNormalSwap env ref >>= fun _ => pure _) _ _
      refine Triple.modifyBind (R := SaysOnly Event.BroadcastsNone w₀)
        (fun s' (hs' : SaysOnly _ w₀ s') => hs'.same (World.assign_trace ref _ s')) ?_
      refine Triple.bind (says_finishNormalSwap_none env ref w₀) fun _ => ?_
      exact Triple.pure fun s' hs' => ⟨hs', fun h => by cases h⟩
    | none =>
      show Triple _ (handleExtracted env ref spent_height claim_tx none) _ _
      dsimp only [handleExtracted]
      split
      · refine Triple.modifyBind (R := SaysOnly Event.BroadcastsNone w₀)
          (fun s' (hs' : SaysOnly _ w₀ s') => hs'.same (World.assign_trace ref _ s')) ?_
        refine Triple.bind (says_quiet (fun w₁ => quiet_failSwap env w₁ ref) w₀) fun _ => ?_
        exact Triple.pure fun s' hs' => ⟨hs', fun h => by cases h⟩
      · split
        · next hzero =>
          refine triple_orRaise hkeep fun fee hfee => Triple.pure fun s' hs' => ⟨hs', fun h => ?_⟩
          have hcheap := of_decide_eq_true (SpendOutcome.goOn.inj h)
          rw [hfetched] at htx
          exact ⟨hspent.trans (congrArg some hzero), spent_txid, claim_tx, fee, hspender, htx, hfee,
            hcheap⟩
        · exact Triple.pure fun s' hs' => ⟨hs', fun h => by cases h⟩

/-- A transaction whose fee is known has no inputs, so that the search in it finds nothing. -/
theorem inspectSpend_cheap (h : SpentTooCheap env txin) :
    inspectSpend env ref txin 0 w = .ok (.goOn true) w := by
  obtain ⟨-, spent_txid, claim_tx, fee, hspender, htx, hfee, hlow⟩ := h
  have hnone : claim_tx.witnesses = [] := by
    unfold Transaction.getFee at hfee
    split at hfee
    · next hempty => exact List.isEmpty_iff.mp hempty
    · cases hfee
  unfold inspectSpend
  rw [get_bind, hspender, orRaise_some, pure_bind, htx, orRaise_some, pure_bind, orRaise_some,
    pure_bind, hnone]
  show handleExtracted env ref 0 claim_tx none w = _
  dsimp only [handleExtracted]
  rw [if_neg (by decide), if_pos rfl, hfee, orRaise_some, pure_bind, decide_eq_true hlow]
  rfl

/-- A spent output is refunded only where a higher fee is asked for. -/
theorem takeRefund_spent (hspent : txin.spentHeight.isSome = true) {outcome : SpendOutcome}
    (hnot : outcome ≠ .goOn true) (remaining_time conf : Int) (s : World) :
    takeRefund env ref txin remaining_time conf outcome s = .ok () s := by
  cases outcome with
  | finished => rfl
  | refunded => rfl
  | goOn should_bump_fee =>
    cases should_bump_fee with
    | true => exact absurd rfl hnot
    | false =>
      dsimp only [takeRefund]
      rw [get_bind, hspent]
      split
      · rfl
      · split
        · rfl
        · rfl

/-- What keeps a call from a refund is out of the way: it is late enough, the preimage is unknown, and
the output is not spent, or a higher fee is asked for. -/
theorem takeRefund_broadcasts {remaining_time : Int} (hlate : remaining_time ≤ 0)
    (hunknown : (w.heap ref).preimage = none) {should_bump_fee : Bool}
    (hopen : (txin.spentHeight.isSome && !should_bump_fee) = false) (conf : Int) :
    takeRefund env ref txin remaining_time conf (.goOn should_bump_fee) w
      = broadcastClaim env ref txin conf w := by
  have hhas : (w.heap ref).hasPreimage = false := by
    unfold SwapData.hasPreimage
    rw [hunknown]
  dsimp only [takeRefund]
  rw [get_bind, if_neg (by omega), hhas, if_neg (by simp), hopen, if_neg (by simp)]

/-- What a normal swap sends that is past its locktime, once the output has been found. -/
theorem claimNormal_refunds_iff (env : Env) (txin : PartialTxInput) {remaining_time : Int} (hlate : remaining_time ≤ 0)
    (hnormal : (w.heap ref).isReverse = false) (hunknown : (w.heap ref).preimage = none)
    (hfunding : (w.heap ref).fundingTxid = some txin.prevout.txid) (conf : Int)
    (tx : PartialTransaction) :
    Emits (claimNormal env ref txin remaining_time conf) w (.broadcastRawTransaction tx) ↔
      (txin.spentHeight = none ∨ SpentTooCheap env txin) ∧
      dustThreshold ≤ txin.valueSats - getFee env CLAIM_FEE_SIZE ∧ 0 < conf ∧
      tx = claimTxOf env (w.heap ref) [] txin := by
  have hwitness : ∀ sig, (w.heap ref).claimWitness sig
      = some (constructWitness [sig, [], (w.heap ref).redeemScript]) := by
    intro sig
    unfold SwapData.claimWitness
    rw [hnormal]
    rfl
  have htrace := trace_broadcastClaim env hwitness hfunding conf
  -- where the call gets to its end, the end decides
  have hend : claimNormal env ref txin remaining_time conf w = broadcastClaim env ref txin conf w →
      (Emits (claimNormal env ref txin remaining_time conf) w (.broadcastRawTransaction tx) ↔
        dustThreshold ≤ txin.valueSats - getFee env CLAIM_FEE_SIZE ∧ 0 < conf ∧
        tx = claimTxOf env (w.heap ref) [] txin) := by
    intro hrun
    rw [← final_congr hrun] at htrace
    rw [emits_of_trace htrace]
    by_cases hworth : dustThreshold ≤ txin.valueSats - getFee env CLAIM_FEE_SIZE ∧ 0 < conf
    · rw [if_pos hworth, List.mem_singleton]
      constructor
      · exact fun h => ⟨hworth.1, hworth.2, Event.broadcastRawTransaction.inj h⟩
      · exact fun h => congrArg Event.broadcastRawTransaction h.2.2
    · rw [if_neg hworth]
      exact iff_of_false List.not_mem_nil fun h => hworth ⟨h.1, h.2.1⟩
  cases hspent : txin.spentHeight with
  | none =>
    refine (hend ?_).trans (and_iff_right (.inl rfl)).symm
    have hrun : claimNormal env ref txin remaining_time conf w
        = takeRefund env ref txin remaining_time conf (.goOn false) w := by
      unfold claimNormal
      rw [get_bind, hunknown, hspent]
      rfl
    exact hrun.trans (takeRefund_broadcasts hlate hunknown (by rw [hspent]; rfl) conf)
  | some spent_height =>
    have hrun : claimNormal env ref txin remaining_time conf w
        = (inspectSpend env ref txin spent_height >>=
          takeRefund env ref txin remaining_time conf) w := by
      unfold claimNormal
      rw [get_bind, hunknown, hspent]
    by_cases hcheap : SpentTooCheap env txin
    · obtain rfl : spent_height = 0 := Option.some.inj (hspent.symm.trans hcheap.1)
      refine (hend ?_).trans (and_iff_right (.inr hcheap)).symm
      rw [hrun, bind_ok (inspectSpend_cheap hcheap)]
      exact takeRefund_broadcasts hlate hunknown (by simp) conf
    · refine iff_of_false ?_ ?_
      · have hkeeps : Keeps (SaysOnly Event.BroadcastsNone w)
            (inspectSpend env ref txin spent_height >>=
              takeRefund env ref txin remaining_time conf) := by
          refine Triple.bind (says_inspectSpend hspent) fun outcome => ?_
          rintro s ⟨hs, honly⟩
          have hnot : outcome ≠ .goOn true := fun h => hcheap (honly h)
          rw [takeRefund_spent (by rw [hspent]; rfl) hnot]
          exact hs
        have hfinal := hkeeps.final (SaysOnly.refl w)
        rw [← final_congr hrun] at hfinal
        exact hfinal.not_emits fun h => h tx rfl
      · rintro ⟨hopen | hopen, -⟩
        · cases hopen
        · exact hcheap hopen

variable {current_height : Nat}

/-- **What a normal swap sends that is past its locktime**, while its preimage is unknown: the refund
of the output listed first, where that gives occasion for one. -/
theorem claimSwap_refunds_iff {txos : List PartialTxInput} (hup : env.isUpToDate = some true)
    (hheight : env.localHeight = some current_height)
    (htxos : env.addrOutputs (w.heap ref).lockupAddress = some txos)
    (hnormal : (w.heap ref).isReverse = false) (hunknown : (w.heap ref).preimage = none)
    (hexpired : (w.heap ref).locktime ≤ current_height) (tx : PartialTransaction) :
    Emits (claimSwap env ref) w (.broadcastRawTransaction tx) ↔
      ∃ first, RefundsFirst env (w.heap ref) first ∧
        tx = claimTxOf env (w.heap ref) [] first := by
  have hrun := claimSwap_run hup hheight htxos
  cases txos with
  | nil =>
    have hkeeps : Keeps (SaysOnly Event.BroadcastsNone w)
        (claimSelected env ref (w.heap ref).locktime current_height none) :=
      Keeps.ite (says_quiet (fun w₀ => quiet_failSwap env w₀ ref) w) Keeps.pure
    have hfinal := hkeeps.final (SaysOnly.refl w)
    have hrun' : claimSwap env ref w
        = claimSelected env ref (w.heap ref).locktime current_height none w := hrun
    rw [← final_congr hrun'] at hfinal
    refine iff_of_false (hfinal.not_emits fun h => h tx rfl) ?_
    rintro ⟨first, hfirst, -⟩
    obtain ⟨txos, htxos'⟩ := hfirst.listed
    rw [htxos] at htxos'
    cases htxos'
  | cons first txos =>
    have hselected : selectTxo (w.heap ref) (first :: txos) = .ok (some first) := by
      unfold selectTxo
      rw [hnormal]
      rfl
    have hselects : Selects env (w.heap ref) current_height first :=
      ⟨hup, hheight, first :: txos, htxos, hselected⟩
    have hfirst : ∀ first', RefundsFirst env (w.heap ref) first' → first' = first := by
      intro first' h
      obtain ⟨txos', htxos'⟩ := h.listed
      rw [htxos] at htxos'
      exact (List.cons.inj (Option.some.inj htxos')).1.symm
    obtain ⟨w', hw', ⟨hnone, hraises⟩ | ⟨conf, hconf, hgoes⟩⟩ :=
      claimFunded_run env ref current_height first w
    · have hsame : (final (claimSwap env ref) w).trace = w.trace := by
        rw [final_congr (claimSwap_selects hselects)]
        unfold final
        rw [hraises]
        exact hw'.trace
      refine iff_of_false (not_emits hsame _) ?_
      rintro ⟨first', h, -⟩
      obtain ⟨conf, hconf, -⟩ := h.confirmed
      rw [hfirst first' h, hnone] at hconf
      cases hconf
    · obtain ⟨spending, db, hswap⟩ := hw'.swap
      have hfinal := final_congr ((claimSwap_selects hselects).trans hgoes)
      have hemits : Emits (claimSwap env ref) w (.broadcastRawTransaction tx) ↔
          Emits (claimLocated env ref current_height first conf) w'
            (.broadcastRawTransaction tx) := by
        unfold Emits
        rw [hfinal, hw'.trace]
      have hopen : ∀ first', RefundsFirst env (w.heap ref) first' →
          deeplySpent current_height first = false := by
        intro first' h
        unfold deeplySpent
        rcases hfirst first' h ▸ h.unspent with hspent | hspent
        · rw [hspent]
          rfl
        · rw [hspent.1]
          rfl
      rw [hemits]
      by_cases hdeep : deeplySpent current_height first = true
      · refine iff_of_false ?_ ?_
        · have hkeeps : Keeps (SaysOnly Event.BroadcastsNone w')
              (claimLocated env ref current_height first conf) := by
            refine Keeps.get fun s => ?_
            rw [if_pos hdeep]
            exact Keeps.bind (Keeps.modify fun s h => h.same (World.assign_trace ref _ s)) fun _ =>
              says_quiet (fun w₀ => quiet_deleteFinishedReverseSwap env w₀ ref) w'
          exact (hkeeps.final (SaysOnly.refl w')).not_emits fun h => h tx rfl
        · rintro ⟨first', h, -⟩
          rw [hopen first' h] at hdeep
          cases hdeep
      · have hdeep : deeplySpent current_height first = false := by simpa using hdeep
        have hnormal' : (w'.heap ref).isReverse = false := by rw [hswap]; exact hnormal
        have hlate : ((w'.heap ref).locktime : Int) - current_height ≤ 0 := by
          rw [hswap]
          dsimp only
          omega
        have hiff := claimNormal_refunds_iff env first hlate hnormal'
          (by rw [hswap]; exact hunknown) (by rw [hswap]) conf tx
        have htx : claimTxOf env (w'.heap ref) [] first = claimTxOf env (w.heap ref) [] first := by
          rw [hswap]
          rfl
        have hsame : Emits (claimLocated env ref current_height first conf) w'
            (.broadcastRawTransaction tx) ↔ Emits (claimNormal env ref first
              ((w'.heap ref).locktime - current_height) conf) w' (.broadcastRawTransaction tx) := by
          unfold Emits
          rw [final_congr (claimLocated_normal hdeep hnormal')]
        rw [hsame, hiff, htx]
        constructor
        · rintro ⟨hunspent, hworth, hpos, rfl⟩
          exact ⟨first, ⟨⟨txos, htxos⟩, ⟨conf, hconf, hpos⟩, hworth, hunspent⟩, rfl⟩
        · rintro ⟨first', h, rfl⟩
          obtain rfl := hfirst first' h
          obtain ⟨conf', hconf', hpos⟩ := h.confirmed
          rw [hconf] at hconf'
          cases hconf'
          exact ⟨h.unspent, h.worth, hpos, rfl⟩

omit [Deployment] in
theorem getFee_fetched (tx : PartialTransaction) : tx.fetched.getFee = none := rfl

variable {own : PartialTxInput} {refund : PartialTransaction} {value : Int}

/-- A stuck refund is not replaced: its fee is not known. -/
theorem BumpsRefund.not_low (h : StuckRefund env (w.heap ref) current_height own refund)
    (hbumps : BumpsRefund env ref w value refund) : ¬ FeeTooLow env value refund := by
  intro hlow
  obtain ⟨tx, hemits, hreplaces⟩ := hbumps.1 hlow
  obtain ⟨txos, htxos, hown, honly⟩ := h.listed
  obtain ⟨first, hfirst, rfl⟩ := (claimSwap_refunds_iff h.upToDate h.height htxos h.normal h.unknown
    h.expired tx).mp hemits
  obtain ⟨txos', htxos'⟩ := hfirst.listed
  rw [htxos] at htxos'
  cases htxos'
  -- the output that is refunded is the own one, which is spent by the refund
  have hprevout : first.prevout = own.prevout := hreplaces.prevout.trans h.prevout
  obtain rfl := honly first List.mem_cons_self hprevout
  rcases hfirst.unspent with hunspent | ⟨-, spent_txid, claim_tx, fee, hspender, htx, hfee, -⟩
  · rw [h.unconfirmed] at hunspent
    cases hunspent
  · rw [h.spender] at hspender
    cases hspender
    rw [h.found] at htx
    cases htx
    rw [getFee_fetched] at hfee
    cases hfee

/-- **A stuck refund is handled as it should be** exactly when its fee does for the time being and the
output listed first gives no occasion for a refund. -/
theorem refund_bumped_iff (env : Env) (ref : SwapRef) (w : World) (current_height : Nat)
    (own : PartialTxInput) (value : Int) (refund : PartialTransaction)
    (h : StuckRefund env (w.heap ref) current_height own refund) :
    BumpsRefund env ref w value refund ↔
      ¬ FeeTooLow env value refund ∧ ¬ ∃ first, RefundsFirst env (w.heap ref) first := by
  obtain ⟨txos, htxos, -⟩ := h.listed
  have hrefunds := claimSwap_refunds_iff h.upToDate h.height htxos h.normal h.unknown h.expired
  constructor
  · intro hbumps
    have henough := hbumps.not_low h
    refine ⟨henough, ?_⟩
    rintro ⟨first, hfirst⟩
    exact hbumps.2 henough _ ((hrefunds _).mpr ⟨first, hfirst, rfl⟩)
  · rintro ⟨henough, hnone⟩
    refine ⟨fun hlow => absurd hlow henough, fun _ tx hemits => ?_⟩
    obtain ⟨first, hfirst, -⟩ := (hrefunds tx).mp hemits
    exact hnone ⟨first, hfirst⟩

end

section Sample

open Sample

attribute [local instance] Sample.deployment

/-- The refund of the funded swap with an output of this value. -/
def sampleRefund (value : Int) : PartialTransaction where
  prevout := lockupOutput.prevout
  address := (afterFunding.heap 0).receiveAddress
  value := value
  locktime := (afterFunding.heap 0).locktime
  witness := constructWitness [List.replicate 71 9, [], (afterFunding.heap 0).redeemScript]

/-- A thousand blocks after the swap was made the refund is still in the mempool. -/
def stuckEnv (value : Int) : Env :=
  { env with
    localHeight := some 901000
    addrOutputs := fun _ => some [
      { lockupOutput with spentHeight := some 0, spentTxid := some (sampleRefund value).id }]
    transaction := fun _ => some (some (sampleRefund value).fetched) }

theorem stuckRefund_sample (value : Int) :
    StuckRefund (stuckEnv value) (afterFunding.heap 0) 901000
      { lockupOutput with spentHeight := some 0, spentTxid := some (sampleRefund value).id }
      (sampleRefund value) where
  upToDate := rfl
  height := rfl
  normal := by decide +kernel
  unknown := by decide +kernel
  expired := by decide +kernel
  listed := by
    refine ⟨_, rfl, List.mem_cons_self, ?_⟩
    rintro txin htxin -
    exact List.mem_singleton.mp htxin
  unconfirmed := rfl
  spender := rfl
  prevout := rfl
  address := rfl
  locktime := rfl
  signed := by
    have hnormal : (afterFunding.heap 0).isReverse = false := by decide +kernel
    refine ⟨List.replicate 71 9, ?_⟩
    unfold SwapData.claimWitness
    rw [hnormal]
    rfl
  found := rfl

/-- A refund that pays the recommended fee of 136 sat is left alone. -/
theorem refund_bumped_enough :
    BumpsRefund (stuckEnv 999864) 0 afterFunding 1000000 (sampleRefund 999864) := by
  refine (refund_bumped_iff (stuckEnv 999864) 0 afterFunding 901000 _ 1000000 (sampleRefund 999864)
    (stuckRefund_sample 999864)).mpr ⟨by unfold FeeTooLow; decide +kernel, ?_⟩
  rintro ⟨first, ⟨txos, htxos⟩, -, -, hunspent⟩
  cases htxos
  rcases hunspent with hunspent | ⟨-, spent_txid, claim_tx, fee, -, htx, hfee, -⟩
  · cases hunspent
  · cases htx
    cases hfee

/-- One that pays 100 sat is not replaced. -/
theorem refund_not_bumped :
    ¬ BumpsRefund (stuckEnv 999900) 0 afterFunding 1000000 (sampleRefund 999900) := by
  intro hbumps
  exact hbumps.not_low (stuckRefund_sample 999900) (by unfold FeeTooLow; decide +kernel)

end Sample

end SubswapProvider
