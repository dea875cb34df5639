import SubswapProvider.Settling
import SubswapProvider.Objects

/-!
# Payments of others to the lockup address

Anyone can pay to the lockup address of a normal swap, and `_claim_swap` then finds more outputs than
the provider's own. For a normal swap it goes on with the first one, whatever its amount, so two
chains that differ in the payments of others come to the same result exactly when the same output is
listed first (`claimSwap_ignores_others_iff`).
-/

namespace SubswapProvider

open Deployment Effect

/-- The chain of `env`, with these outputs of the lockup address. -/
def Env.withOutputs (env : Env) (txos : List PartialTxInput) : Env :=
  { env with addrOutputs := fun _ => some txos }

/-- The chain can be looked at. -/
def Env.Looks (env : Env) : Prop := env.isUpToDate = some true ∧ env.localHeight.isSome = true

/-- Two worlds agree on what a call made of a swap: the output it took for the funding, what it
learned and settled, and what it broadcast or gave up. -/
structure SameOutcome (ref : SwapRef) (w w' : World) : Prop where
  fundingTxid : (w'.heap ref).fundingTxid = (w.heap ref).fundingTxid
  preimage : (w'.heap ref).preimage = (w.heap ref).preimage
  isRedeemed : (w'.heap ref).isRedeemed = (w.heap ref).isRedeemed
  holdInvoices : w'.holdInvoices = w.holdInvoices
  swaps : w'.swaps = w.swaps
  lnwatcherCallbacks : w'.lnwatcherCallbacks = w.lnwatcherCallbacks
  trace : w'.trace = w.trace

theorem SameOutcome.of_eq {ref : SwapRef} {w w' : World} (h : w' = w) : SameOutcome ref w w' := by
  rw [h]
  exact ⟨rfl, rfl, rfl, rfl, rfl, rfl, rfl⟩

/-! ## What the call notes of its output -/

/-- The transaction is noted as the one that funds the swap. -/
def Notes (ref : SwapRef) (txid : Txid) (w : World) : Prop := (w.heap ref).fundingTxid = some txid

section

variable {ref : SwapRef} {txid : Txid}

theorem notes_heap {α : Type} {p : PyM α} (h : ∀ w₀, Keeps (HeapSame w₀) p) :
    Keeps (Notes ref txid) p :=
  Keeps.of_rel h HeapSame.refl fun _ _ hst hs => by
    unfold Notes
    rw [hst.heap]
    exact hs

theorem notes_assign {r : SwapRef} {f : SwapData → SwapData}
    (hf : ∀ swap, (f swap).fundingTxid = swap.fundingTxid) :
    Keeps (Notes ref txid) (modify (World.assign r f) : PyM PUnit) :=
  Keeps.modify fun w hw => by
    unfold Notes
    rw [World.assign_heap]
    by_cases hr : ref = r
    · subst hr
      rw [Function.update_self]
      exact (hf _).trans hw
    · rw [Function.update_of_ne hr]
      exact hw

variable [Deployment] (env : Env)

theorem notes_claimNormal (r : SwapRef) (txin : PartialTxInput) (remaining_time conf : Int) :
    Keeps (Notes ref txid) (claimNormal env r txin remaining_time conf) := by
  unfold claimNormal
  refine Keeps.get fun w => Keeps.bind ?_ fun outcome => ?_
  · split
    · unfold inspectSpend
      refine Keeps.get fun _ => Keeps.bind (keeps_orRaise _ _) fun _ =>
        Keeps.bind (keeps_orRaise _ _) fun _ => Keeps.bind (keeps_orRaise _ _) fun _ =>
        Keeps.bind (keeps_liftExcept _) fun extracted => ?_
      cases extracted with
      | some preimage =>
        exact Keeps.bind (notes_assign fun _ => rfl) fun _ =>
          Keeps.bind (notes_heap fun w₀ => heap_finishNormalSwap env w₀ r) fun _ => Keeps.pure
      | none =>
        exact Keeps.ite (Keeps.bind (notes_assign fun _ => rfl) fun _ =>
          Keeps.bind (notes_heap (heap_quiet fun w₀ => quiet_failSwap env w₀ r)) fun _ => Keeps.pure)
          (Keeps.ite (Keeps.bind (keeps_orRaise _ _) fun _ => Keeps.pure) Keeps.pure)
    · exact Keeps.pure
  · exact keeps_takeRefund env txin (fun _ => notes_assign fun _ => rfl)
      (fun _ => notes_heap (heap_same fun w₀ => same_emit w₀ _)) _ _ _

/-- The noted output is the one the call goes on with. -/
theorem notes_claimSwap {current_height : Nat} {txin : PartialTxInput} {w : World}
    (hselects : Selects env (w.heap ref) current_height txin)
    (hnormal : (w.heap ref).isReverse = false) :
    Notes ref txin.prevout.txid (final (claimSwap env ref) w) := by
  obtain ⟨w', hw', hrun⟩ := claimFunded_run env ref current_height txin w
  rw [← claimSwap_selects hselects] at hrun
  have hnotes : Notes ref txin.prevout.txid w' := by
    obtain ⟨spending, db, hswap⟩ := hw'.swap
    unfold Notes
    rw [hswap]
  rcases hrun with ⟨-, hrun⟩ | ⟨conf, -, hrun⟩
  · unfold final
    rw [hrun]
    exact hnotes
  · rw [final_congr hrun]
    by_cases hdeep : deeplySpent current_height txin = true
    · have hkeeps : Keeps (Notes ref txin.prevout.txid) (do
          modify (World.assign ref fun swap => { swap with isRedeemed := true })
          deleteFinishedReverseSwap env ref : PyM Unit) :=
        Keeps.bind (notes_assign fun _ => rfl) fun _ =>
          notes_heap (heap_quiet fun w₀ => quiet_deleteFinishedReverseSwap env w₀ ref)
      have hcleanup : claimLocated env ref current_height txin conf w' = (do
          modify (World.assign ref fun swap => { swap with isRedeemed := true })
          deleteFinishedReverseSwap env ref : PyM Unit) w' := by
        unfold claimLocated
        rw [get_bind, if_pos hdeep]
      rw [final_congr hcleanup]
      exact hkeeps.final hnotes
    · rw [final_congr (claimLocated_normal (by simpa using hdeep) (hw'.heap.1.trans hnormal))]
      exact (notes_claimNormal env ref txin _ conf).final hnotes

/-! ## Two chains -/

variable {w : World} (txin : PartialTxInput) (txos : List PartialTxInput)

omit [Deployment] in
/-- A normal swap follows the output that is listed first. -/
theorem selects_head (hlooks : env.Looks) (hnormal : (w.heap ref).isReverse = false) :
    ∃ current_height, env.localHeight = some current_height ∧
      Selects (env.withOutputs (txin :: txos)) (w.heap ref) current_height txin := by
  obtain ⟨current_height, hheight⟩ := Option.isSome_iff_exists.mp hlooks.2
  refine ⟨current_height, hheight, hlooks.1, hheight, txin :: txos, rfl, ?_⟩
  unfold selectTxo
  rw [hnormal]
  rfl

/-- The outputs matter through the first one only. -/
theorem claimSwap_withOutputs (hlooks : env.Looks) (hnormal : (w.heap ref).isReverse = false) :
    ∃ current_height, env.localHeight = some current_height ∧
      claimSwap (env.withOutputs (txin :: txos)) ref w
        = claimFunded env ref current_height txin w := by
  obtain ⟨current_height, hheight, hselects⟩ := selects_head env txin txos hlooks hnormal
  exact ⟨current_height, hheight, claimSwap_selects hselects⟩

/-- A chain that cannot be looked at leaves everything as it is. -/
theorem claimSwap_not_looks (hlooks : ¬ env.Looks) (hnormal : (w.heap ref).isReverse = false) :
    final (claimSwap (env.withOutputs (txin :: txos)) ref) w = w := by
  have hselects : ¬ ∃ current_height txin', Selects (env.withOutputs (txin :: txos)) (w.heap ref)
      current_height txin' := by
    rintro ⟨current_height, txin', hselects⟩
    have hheight : env.localHeight = some current_height := hselects.height
    exact hlooks ⟨hselects.upToDate, by rw [hheight]; rfl⟩
  obtain ⟨-, hsame | ⟨txos', htxos, hnone⟩⟩ := claimSwap_idle hselects
  · exact hsame
  · cases htxos
    unfold selectTxo at hnone
    rw [hnormal] at hnone
    cases hnone

/-- The same first output, the same result. -/
theorem claimSwap_same_first (txos' : List PartialTxInput) (hnormal : (w.heap ref).isReverse = false) :
    final (claimSwap (env.withOutputs (txin :: txos)) ref) w
      = final (claimSwap (env.withOutputs (txin :: txos')) ref) w := by
  by_cases hlooks : env.Looks
  · obtain ⟨height, hheight, hrun⟩ := claimSwap_withOutputs env txin txos
      hlooks hnormal
    obtain ⟨height', hheight', hrun'⟩ := claimSwap_withOutputs env txin txos'
      hlooks hnormal
    rw [hheight] at hheight'
    cases hheight'
    rw [final_congr hrun, final_congr hrun']
  · rw [claimSwap_not_looks env _ _ hlooks hnormal, claimSwap_not_looks env _ _ hlooks hnormal]

end

/-- **When the payments of others do not matter.** The own output is listed on both chains. The call
comes to the same on both exactly when it cannot look at them, or both list the same output first;
the first ones come from two transactions, unless they are one output. -/
theorem claimSwap_ignores_others_iff [Deployment] (env : Env) (w : World) (ref : SwapRef)
    (own : PartialTxInput) (txos₁ txos₂ : List PartialTxInput)
    (hnormal : (w.heap ref).isReverse = false) (hown₁ : own ∈ txos₁) (hown₂ : own ∈ txos₂)
    (hapart : ∀ a b, txos₁.head? = some a → txos₂.head? = some b →
      a.prevout.txid = b.prevout.txid → a = b) :
    SameOutcome ref (final (claimSwap (env.withOutputs txos₁) ref) w)
        (final (claimSwap (env.withOutputs txos₂) ref) w) ↔
      ¬ env.Looks ∨ txos₁.head? = txos₂.head? := by
  obtain ⟨a, rest₁, rfl⟩ := List.exists_cons_of_ne_nil (List.ne_nil_of_mem hown₁)
  obtain ⟨b, rest₂, rfl⟩ := List.exists_cons_of_ne_nil (List.ne_nil_of_mem hown₂)
  constructor
  · intro hsame
    by_cases hlooks : env.Looks
    · obtain ⟨height, -, hselects₁⟩ := selects_head env a rest₁ hlooks hnormal
      obtain ⟨height', -, hselects₂⟩ := selects_head env b rest₂ hlooks hnormal
      have hnotes₁ := notes_claimSwap _ hselects₁ hnormal
      have hnotes₂ := notes_claimSwap _ hselects₂ hnormal
      have htxid : some b.prevout.txid = some a.prevout.txid :=
        hnotes₂.symm.trans (hsame.fundingTxid.trans hnotes₁)
      exact .inr (congrArg some (hapart a b rfl rfl (Option.some.inj htxid).symm))
    · exact .inl hlooks
  · rintro (hlooks | hfirst)
    · apply SameOutcome.of_eq
      rw [claimSwap_not_looks env _ _ hlooks hnormal, claimSwap_not_looks env _ _ hlooks hnormal]
    · cases hfirst
      exact SameOutcome.of_eq (claimSwap_same_first env _ _ _ hnormal)

section Sample

open Sample

attribute [local instance] Sample.deployment

/-- The chain on which the client has claimed the lockup output. -/
def claimedChain : Env := spentEnv 900000 [some (claimWitnessOf afterFunding 0)]

/-- A small payment of somebody else to the lockup address. -/
def foreignOutput : PartialTxInput where
  prevout := ⟨List.replicate 32 11, 0⟩
  valueSats := 1000
  spentHeight := none
  spentTxid := none

/-- A payment that is listed after the own output changes nothing. -/
theorem claimSwap_ignores_others_behind :
    SameOutcome 0
      (final (claimSwap (claimedChain.withOutputs [spentOutput 900000]) 0) afterFunding)
      (final (claimSwap (claimedChain.withOutputs [spentOutput 900000, foreignOutput]) 0)
        afterFunding) :=
  (claimSwap_ignores_others_iff claimedChain afterFunding 0 (spentOutput 900000)
    [spentOutput 900000] [spentOutput 900000, foreignOutput] (by decide +kernel) List.mem_cons_self List.mem_cons_self
    fun _ _ ha hb _ => Option.some.inj (ha.symm.trans hb)).mpr (.inr rfl)

/-- One that is listed before it, as the unspent outputs are, hides the claim: the preimage is not
learned, and nothing is settled. -/
theorem claimSwap_misled_by_others :
    ∃ (env : Env) (w : World) (ref : SwapRef) (own : PartialTxInput)
      (txos₁ txos₂ : List PartialTxInput), Reachable (fun _ _ => True) w ∧
      (w.heap ref).isReverse = false ∧ own ∈ txos₁ ∧ own ∈ txos₂ ∧
      (∃ preimage, Emits (claimSwap (env.withOutputs txos₁) ref) w
        (.settled (w.heap ref).paymentHash preimage)) ∧
      (∀ preimage, ¬ Emits (claimSwap (env.withOutputs txos₂) ref) w
        (.settled (w.heap ref).paymentHash preimage)) ∧
      ¬ SameOutcome ref (final (claimSwap (env.withOutputs txos₁) ref) w)
        (final (claimSwap (env.withOutputs txos₂) ref) w) := by
  have hsettles : Emits (claimSwap (claimedChain.withOutputs [spentOutput 900000]) 0) afterFunding
      (.settled (afterFunding.heap 0).paymentHash Sample.preimage) :=
    ⟨[.settled (afterFunding.heap 0).paymentHash Sample.preimage,
      .answer (htlcFor 1 paymentHash 49728000) (.resolve Sample.preimage)], by decide +kernel,
      List.mem_cons_self⟩
  have hquiet : (final (claimSwap (claimedChain.withOutputs
      [foreignOutput, spentOutput 900000]) 0) afterFunding).trace = afterFunding.trace := by
    decide +kernel
  refine ⟨claimedChain, afterFunding, 0, spentOutput 900000, [spentOutput 900000],
    [foreignOutput, spentOutput 900000], reachable_runOf _, by decide +kernel, List.mem_cons_self,
    List.mem_cons_of_mem _ List.mem_cons_self, ⟨_, hsettles⟩, fun _ => not_emits hquiet _, ?_⟩
  exact fun hsame => absurd hsame.fundingTxid (by decide +kernel)

end Sample

end SubswapProvider
