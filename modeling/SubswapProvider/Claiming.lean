import SubswapProvider.Terms
import SubswapProvider.Objects
import SubswapProvider.Following

/-!
# Where the money comes back

Whatever `_claim_swap` broadcasts takes an output of the lockup address, pays an address of the wallet, and is
signed with the key of the swap; a refund comes only when its lock time has been reached
(`claim_pays_wallet`). `swap` is the swap as the call found it: what the call assigns to it is not part of
the deal.
-/

namespace SubswapProvider

open Deployment Effect

section

variable [Deployment]

/-- A transaction that takes the output of a swap: it pays the wallet, and signs with the key of the swap.
A refund is not final before the lock time of the swap, and that height has been reached. -/
structure PaysWallet (env : Env) (swap : SwapData) (tx : PartialTransaction) : Prop where
  address : tx.address = swap.receiveAddress
  spends : ∃ txos, env.addrOutputs swap.lockupAddress = some txos ∧ ∃ txin ∈ txos,
    tx.prevout = txin.prevout ∧ tx.value = txin.valueSats - getFee env CLAIM_FEE_SIZE
  dust : dustThreshold ≤ tx.value
  witness : ∃ x, tx.witness = constructWitness [signTxin tx.prevout tx.address tx.value tx.locktime
    swap.privkey, x, swap.redeemScript] ∧ (swap.isReverse = false → x = [])
  locktime : tx.locktime = if swap.isReverse then 0 else swap.locktime
  reached : swap.isReverse = false → ∃ height, env.localHeight = some height ∧ swap.locktime ≤ height

section Claiming

variable {env : Env} {ref : SwapRef} {swap : SwapData} {said : List Event}
  {Ok : PartialTransaction → Prop}

/-- In a call about the swap: the deal is the same, and what has been broadcast since is in order. -/
structure Claiming (ref : SwapRef) (swap : SwapData) (said : List Event) (Ok : PartialTransaction → Prop)
    (w : World) : Prop where
  deal : SameDeal swap (w.heap ref)
  log : ∃ es, w.trace = es ++ said ∧ ∀ tx, .broadcastRawTransaction tx ∈ es → Ok tx

omit [Deployment] in
theorem Claiming.say {w : World} {e : Event} (h : Claiming ref swap said Ok w)
    (he : ∀ tx, e = .broadcastRawTransaction tx → Ok tx) : Claiming ref swap said Ok (w.say e) := by
  obtain ⟨es, htrace, hes⟩ := h.log
  refine ⟨h.deal, e :: es, congrArg (e :: ·) htrace, fun tx htx => ?_⟩
  rcases List.mem_cons.mp htx with heq | htx
  · exact he tx heq.symm
  · exact hes tx htx

omit [Deployment] in
theorem Claiming.congr {w w' : World} (h : Claiming ref swap said Ok w) (hheap : w'.heap = w.heap)
    (htrace : w'.trace = w.trace) : Claiming ref swap said Ok w' where
  deal := by rw [hheap]; exact h.deal
  log := by rw [htrace]; exact h.log

omit [Deployment] in
theorem claiming_quiet {α : Type} {p : PyM α} (h : ∀ w₀, Keeps (Quiet w₀) p) :
    Keeps (Claiming ref swap said Ok) p :=
  Keeps.of_rel h Quiet.refl fun _ _ hst hs => hs.congr hst.heap hst.trace

omit [Deployment] in
theorem claiming_assign {f : SwapData → SwapData} (hf : ∀ now, SameDeal now (f now)) :
    Keeps (Claiming ref swap said Ok) (modify (World.assign ref f) : PyM PUnit) :=
  Keeps.modify fun w hw => by
    refine ⟨?_, by rw [World.assign_trace]; exact hw.log⟩
    rw [World.assign_heap_self]
    exact hw.deal.trans (hf _)

/-! ### Finishing -/

omit [Deployment] in
theorem claiming_deleteHoldInvoice (k : Hex) (write_db : Bool) :
    Keeps (Claiming ref swap said Ok) (deleteHoldInvoice env k write_db) := by
  refine Keeps.bind (Keeps.modify fun w hw => hw.congr rfl rfl) fun _ => Keeps.get fun w =>
    Keeps.ite (Keeps.bind (Keeps.modify fun s hs => ?_) fun _ => Keeps.ite
      (claiming_quiet (quiet_dbWrite env)) Keeps.pure) Keeps.pure
  apply hs.congr
  · unfold World.popHoldInvoice
    split <;> rfl
  · exact (Recorded.popHoldInvoice s k).trace

theorem claiming_finishNormalSwap (r : SwapRef) :
    Keeps (Claiming ref swap said Ok) (finishNormalSwap env r) := by
  unfold finishNormalSwap
  refine Keeps.get fun w => Keeps.bind (keeps_pyAssert _) fun _ => ?_
  split
  · exact Keeps.throw
  · refine Keeps.bind ?_ fun _ => Keeps.bind (claiming_deleteHoldInvoice _ _) fun _ =>
      Keeps.bind ?_ fun _ => Keeps.bind (claiming_quiet fun w₀ => quiet_deletePaymentInfo env w₀ _ _) fun _ =>
      Keeps.bind (claiming_quiet fun w₀ => quiet_removeCallback w₀ _) fun _ =>
      Keeps.bind (claiming_quiet fun w₀ => quiet_popSwapOrRaise w₀ _) fun _ =>
      claiming_quiet (quiet_dbWrite env)
    · apply keeps_settleInvoice
      · exact fun _ _ _ _ hw => hw.congr rfl rfl
      · exact fun _ _ _ hw => hw.congr rfl rfl
      · exact fun _ _ _ _ _ _ => keeps_setResult (fun _ hw => hw.say nofun) fun _ hw => hw.say nofun
      · exact fun _ _ hw => hw.say nofun
    · split
      · exact claiming_deleteHoldInvoice _ _
      · exact Keeps.pure

/-! ### Broadcasting -/

/-- The transaction that takes the output `txin`. -/
structure TakesOutput (env : Env) (txin : PartialTxInput) (swap : SwapData) (tx : PartialTransaction) :
    Prop where
  address : tx.address = swap.receiveAddress
  prevout : tx.prevout = txin.prevout
  value : tx.value = txin.valueSats - getFee env CLAIM_FEE_SIZE
  dust : dustThreshold ≤ tx.value
  witness : swap.claimWitness (signTxin tx.prevout tx.address tx.value tx.locktime swap.privkey) =
    some tx.witness
  locktime : tx.locktime = if swap.isReverse then 0 else swap.locktime

theorem takesOutput_tryCreateClaimTx (txin : PartialTxInput) (now : SwapData) (w : World) :
    Triple (· = w) (tryCreateClaimTx env txin now)
      (fun o s => s = w ∧ ∀ tx, o = some tx → TakesOutput env txin now tx) fun _ s => s = w := by
  unfold tryCreateClaimTx
  refine Triple.tryCatch (R := fun _ s => s = w) ?_ fun e => ?_
  · refine Triple.bind (R := fun tx s => s = w ∧ TakesOutput env txin now tx) ?_ fun tx =>
      Triple.pure fun s hs => ⟨hs.1, fun tx' htx => Option.some.inj htx ▸ hs.2⟩
    unfold createAndSignClaimTx
    refine triple_raiseIf (fun _ _ hs => hs) fun hdust => triple_pyAssert (fun _ hs => hs) fun _ =>
      triple_orRaise (fun _ hs => hs) fun witness hwitness => Triple.pure fun s hs => ⟨hs, ?_⟩
    exact ⟨rfl, rfl, rfl, Int.not_lt.mp hdust, hwitness, rfl⟩
  · by_cases hdust : e = .BelowDustLimit
    · rw [if_pos hdust]
      exact Triple.pure fun s hs => ⟨hs, nofun⟩
    · rw [if_neg hdust]
      exact Triple.throw fun _ hs => hs

theorem TakesOutput.paysWallet {txin : PartialTxInput} {now : SwapData} {tx : PartialTransaction}
    (h : TakesOutput env txin now tx) (hdeal : SameDeal swap now)
    (hspends : ∃ txos, env.addrOutputs swap.lockupAddress = some txos ∧ txin ∈ txos)
    (hreached : swap.isReverse = false → ∃ height, env.localHeight = some height ∧
      swap.locktime ≤ height) : PaysWallet env swap tx where
  address := h.address.trans hdeal.receiveAddress
  spends := by
    obtain ⟨txos, htxos, hmem⟩ := hspends
    exact ⟨txos, htxos, txin, hmem, h.prevout, h.value⟩
  dust := h.dust
  witness := by
    have hwitness := h.witness
    unfold SwapData.claimWitness at hwitness
    rw [hdeal.isReverse, hdeal.redeemScript, hdeal.privkey] at hwitness
    split at hwitness
    · next hreverse =>
      obtain ⟨x, -, hx⟩ := Option.map_eq_some_iff.mp hwitness
      exact ⟨x, hx.symm, fun hnormal => by rw [hreverse] at hnormal; cases hnormal⟩
    · exact ⟨[], (Option.some.inj hwitness).symm, fun _ => rfl⟩
  locktime := by rw [h.locktime, hdeal.isReverse, hdeal.locktime]
  reached := hreached

section

variable {txin : PartialTxInput}
  (hspends : ∃ txos, env.addrOutputs swap.lockupAddress = some txos ∧ txin ∈ txos)

include hspends

theorem claiming_broadcastClaim (hreached : swap.isReverse = false → ∃ height,
    env.localHeight = some height ∧ swap.locktime ≤ height) (conf : Int) :
    Keeps (Claiming ref swap said (PaysWallet env swap)) (broadcastClaim env ref txin conf) := by
  refine Keeps.getBind fun w hw => Triple.bind ((takesOutput_tryCreateClaimTx txin _ w).conseq
    (fun _ h => h) (fun _ _ h => h) fun _ s hs => hs ▸ hw) fun created => ?_
  refine Triple.at fun s hs => ?_
  obtain ⟨rfl, htakes⟩ := hs
  refine Triple.pre (R := Claiming ref swap said (PaysWallet env swap)) ?_ fun _ h => h ▸ hw
  split
  · exact Keeps.pure
  · next tx =>
    refine Keeps.bind (claiming_assign fun _ => ⟨rfl, rfl, rfl, rfl, rfl, rfl, rfl, rfl, rfl⟩) fun _ =>
      Keeps.ite (Keeps.bind (Keeps.modify fun _ hs => hs.say fun tx' heq => ?_) fun _ =>
        Keeps.ite Keeps.pure Keeps.throw) Keeps.pure
    cases heq
    exact (htakes tx rfl).paysWallet hw.deal hspends hreached

theorem claiming_claimNormal {height : Nat} (hheight : env.localHeight = some height) (conf : Int) :
    Keeps (Claiming ref swap said (PaysWallet env swap))
      (claimNormal env ref txin (swap.locktime - height) conf) := by
  unfold claimNormal
  refine Keeps.get fun w => Keeps.bind ?_ fun outcome => ?_
  · split
    · unfold inspectSpend
      refine Keeps.get fun _ => Keeps.bind (keeps_orRaise _ _) fun _ =>
        Keeps.bind (keeps_orRaise _ _) fun _ => Keeps.bind (keeps_orRaise _ _) fun _ =>
        Keeps.bind (keeps_liftExcept _) fun extracted => ?_
      cases extracted with
      | some preimage =>
        exact Keeps.bind (claiming_assign fun _ => ⟨rfl, rfl, rfl, rfl, rfl, rfl, rfl, rfl, rfl⟩) fun _ =>
          Keeps.bind (claiming_finishNormalSwap ref) fun _ => Keeps.pure
      | none =>
        exact Keeps.ite (Keeps.bind
          (claiming_assign fun _ => ⟨rfl, rfl, rfl, rfl, rfl, rfl, rfl, rfl, rfl⟩) fun _ =>
          Keeps.bind (claiming_quiet fun w₀ => quiet_failSwap env w₀ ref) fun _ => Keeps.pure)
          (Keeps.ite (Keeps.bind (keeps_orRaise _ _) fun _ => Keeps.pure) Keeps.pure)
    · exact Keeps.pure
  · cases outcome with
    | finished => exact Keeps.pure
    | refunded => exact Keeps.pure
    | goOn should_bump_fee =>
      refine Keeps.get fun s => ?_
      by_cases hearly : 0 < (swap.locktime : Int) - height
      · rw [if_pos hearly]
        exact Keeps.pure
      · rw [if_neg hearly]
        exact Keeps.ite Keeps.pure (Keeps.ite Keeps.pure
          (claiming_broadcastClaim hspends (fun _ => ⟨height, hheight, by omega⟩) conf))

theorem claiming_claimReverse (hreverse : swap.isReverse = true) (remaining_time conf : Int) :
    Keeps (Claiming ref swap said (PaysWallet env swap))
      (claimReverse env ref txin remaining_time conf) := by
  unfold claimReverse
  refine Keeps.get fun w => Keeps.bind ?_ fun _ => Keeps.get fun w' => Keeps.ite ?_
    (Keeps.ite Keeps.pure (claiming_broadcastClaim hspends (fun h => ?_) conf))
  · split
    · exact Keeps.pure
    · exact Keeps.bind (keeps_getPreimage _) fun _ =>
        claiming_assign fun _ => ⟨rfl, rfl, rfl, rfl, rfl, rfl, rfl, rfl, rfl⟩
  · unfold queuePayment
    refine Keeps.get fun s => Keeps.ite Keeps.pure ?_
    split
    · exact Keeps.throw
    · exact Keeps.ite (Keeps.modify fun _ hs => hs.congr rfl rfl) (Keeps.ite Keeps.pure
        (Keeps.modify fun _ hs => hs.congr rfl rfl))
  · rw [hreverse] at h
    cases h

theorem claiming_claimFunded {height : Nat} (hheight : env.localHeight = some height) :
    Keeps (Claiming ref swap said (PaysWallet env swap)) (claimFunded env ref height txin) := by
  unfold claimFunded
  refine Keeps.bind (claiming_assign fun _ => ⟨rfl, rfl, rfl, rfl, rfl, rfl, rfl, rfl, rfl⟩) fun _ =>
    Keeps.bind ?_ fun _ => Keeps.bind (keeps_orRaise _ _) fun conf => Keeps.bind ?_ fun _ => ?_
  · refine Keeps.getBind fun w hw => ?_
    dsimp only
    split
    · exact Triple.pure fun _ hs => hs ▸ hw
    · refine Triple.modify fun s hs => ?_
      subst hs
      refine ⟨?_, hw.log⟩
      show SameDeal swap (Function.update s.heap ref { s.heap ref with db := true } ref)
      rw [Function.update_self]
      exact hw.deal.trans ⟨rfl, rfl, rfl, rfl, rfl, rfl, rfl, rfl, rfl⟩
  · exact Keeps.ite (claiming_assign fun _ => ⟨rfl, rfl, rfl, rfl, rfl, rfl, rfl, rfl, rfl⟩) Keeps.pure
  · unfold claimLocated
    refine Keeps.getBind fun w hw => ?_
    rw [hw.deal.locktime, hw.deal.isReverse]
    refine Triple.pre (R := Claiming ref swap said (PaysWallet env swap)) ?_ fun _ hs => hs ▸ hw
    by_cases hdeep : deeplySpent height txin = true
    · rw [if_pos hdeep]
      exact Keeps.bind (claiming_assign fun _ => ⟨rfl, rfl, rfl, rfl, rfl, rfl, rfl, rfl, rfl⟩) fun _ =>
        claiming_quiet fun w₀ => quiet_deleteFinishedReverseSwap env w₀ ref
    · rw [if_neg hdeep]
      by_cases hreverse : swap.isReverse = true
      · rw [if_pos hreverse]
        exact claiming_claimReverse hspends hreverse _ conf
      · rw [if_neg hreverse]
        exact claiming_claimNormal hspends hheight conf

end

omit [Deployment] in
theorem selectTxo_mem {txos : List PartialTxInput} {txin : PartialTxInput}
    (h : selectTxo swap txos = .ok (some txin)) : txin ∈ txos := by
  induction txos with
  | nil => cases h
  | cons txo txos ih =>
    unfold selectTxo at h
    split at h
    · split at h
      · cases h
      · split at h
        · exact List.mem_cons_of_mem _ (ih h)
        · cases h
          exact List.mem_cons_self
    · cases h
      exact List.mem_cons_self

theorem claiming_claimSwap {w : World} (hswap : w.heap ref = swap) :
    Triple (· = w) (claimSwap env ref)
      (fun _ => Claiming ref swap w.trace (PaysWallet env swap))
      fun _ => Claiming ref swap w.trace (PaysWallet env swap) := by
  have hstart : ∀ s, s = w → Claiming ref swap w.trace (PaysWallet env swap) s := by
    rintro s rfl
    exact ⟨hswap ▸ SameDeal.refl _, [], rfl, nofun⟩
  unfold claimSwap
  refine triple_orRaise hstart fun upToDate _ => ?_
  split
  · refine triple_orRaise hstart fun height hheight => Triple.getBind fun s hs => ?_
    subst hs
    refine triple_orRaise (fun _ hs => hstart _ hs) fun txos htxos => ?_
    rw [hswap] at htxos ⊢
    cases hselect : selectTxo swap txos with
    | error e => exact Triple.throw fun _ hs => hstart _ hs
    | ok selected =>
      show Triple _ (claimSelected env ref swap.locktime height selected) _ _
      refine Triple.pre (R := Claiming ref swap s.trace (PaysWallet env swap)) ?_ fun _ hs => hstart _ hs
      cases selected with
      | none =>
        exact Keeps.ite (claiming_quiet fun w₀ => quiet_failSwap env w₀ ref) Keeps.pure
      | some txin =>
        exact claiming_claimFunded ⟨txos, htxos, selectTxo_mem hselect⟩ hheight
  · exact Triple.pure hstart

end Claiming

/-- **What is taken out of a swap.** In every run, a transaction the chain callback broadcasts takes an
output of the lockup address of a swap some request of the run agreed on, and pays it to the address the
wallet gave for that swap; the refund of a normal swap only at its lock time or later. -/
theorem claim_pays_wallet (actions : List Action) {env : Env} {address : Address} {tx : PartialTransaction}
    (h : Emits (claimAddress env address) (runOf actions World.start) (.broadcastRawTransaction tx)) :
    ∃ swap, (∃ a ∈ actions, Agreed a swap) ∧ PaysWallet env swap tx := by
  obtain ⟨es, htrace, hes⟩ := h
  have hagreed := agreed_throughout actions
  generalize runOf actions World.start = w at hagreed htrace
  cases href : w.lnwatcherCallbacks.get? address with
  | none =>
    have hidle : final (claimAddress env address) w = w := by
      unfold claimAddress final
      rw [get_bind, href]
      rfl
    rw [hidle, List.self_eq_append_left] at htrace
    rw [htrace] at hes
    cases hes
  | some ref =>
    have hrun : claimAddress env address w = claimSwap env ref w := by
      unfold claimAddress
      rw [get_bind, href]
    rw [final_congr hrun] at htrace
    have hclaim : Claiming ref (w.heap ref) w.trace (PaysWallet env (w.heap ref))
        (final (claimSwap env ref) w) :=
      (claiming_claimSwap rfl).final rfl
    obtain ⟨es', htrace', hpays⟩ := hclaim.log
    rw [htrace', List.append_cancel_right_eq] at htrace
    exact ⟨w.heap ref, hagreed.live ref (hagreed.watched address ref href), hpays tx (htrace ▸ hes)⟩

end

section Sample

open Sample

attribute [local instance] Sample.deployment

/-- The lock time of the funded swap has come, and its output is unspent. -/
def refundEnv : Env := { Sample.env with
  localHeight := some 900070, addrOutputs := fun _ => some [lockupOutput] }

theorem claim_pays_wallet_refund : ∃ tx,
    Emits (claimAddress refundEnv "bcrt1qlockup") (runOf fundedRun World.start)
      (.broadcastRawTransaction tx) ∧
    ∃ swap, PaysWallet refundEnv swap tx := by
  let swap := (runOf fundedRun World.start).heap 0
  let tx : PartialTransaction := {
    prevout := lockupOutput.prevout
    address := swap.receiveAddress
    value := lockupOutput.valueSats - getFee refundEnv CLAIM_FEE_SIZE
    locktime := 900070
    witness := constructWitness [List.replicate 71 9, [], swap.redeemScript] }
  have hemits : Emits (claimAddress refundEnv "bcrt1qlockup") (runOf fundedRun World.start)
      (.broadcastRawTransaction tx) := by
    refine ⟨[_], ?_, List.mem_singleton_self _⟩
    decide +kernel
  obtain ⟨swap', -, hpays⟩ := claim_pays_wallet fundedRun hemits
  exact ⟨tx, hemits, swap', hpays⟩

end Sample

end SubswapProvider
