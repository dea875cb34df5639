import SubswapProvider.Throughout

/-!
# Funding after the locktime

`hold_invoice_callback` does not look at the block height. Between the moment the client pays and the
pass that calls it lie the payment of the prepay invoice, errors, and restarts of any length, so the
funding transaction can be sent when its refund branch is already open (`funds_after_locktime`). It is
sent in time in every run in which no pass finds a swap that is ready and past its locktime
(`funds_in_time`).
-/

namespace SubswapProvider

open Deployment Effect

/-- The callback of a swap is due: it is registered, its hold invoice and the prepay invoice attached
to it are `FUNDED`, and the swap is not funded yet. -/
structure ReadyToFund (w : World) (k : Hex) (swap : SwapData) : Prop where
  registered : w.holdInvoiceCallbacks.contains k = true
  funded : ∃ main, w.holdInvoices.get? k = some main ∧ main.fundingStatus = .funded ∧
    ∀ p, main.associatedInvoice = some p →
      ∃ prepay, w.getHoldInvoice p = some prepay ∧ prepay.fundingStatus = .funded
  stored : w.swap? k = some swap
  unfunded : swap.fundingTxid = none

section

variable [Deployment]

/-- `p` holds of every step of a run, in the state and at the height it is taken. -/
def Along (p : World → Nat → Action → Prop) : World → List (Nat × Action) → Prop
  | _, [] => True
  | w, (height, a) :: run => p w height a ∧ Along p (step a w) run

theorem Along.of_forall {p : World → Nat → Action → Prop} {run : List (Nat × Action)}
    (h : ∀ x ∈ run, ∀ w, p w x.1 x.2) (w : World) : Along p w run := by
  induction run generalizing w with
  | nil => exact trivial
  | cons x run ih =>
    exact ⟨h x List.mem_cons_self w, ih (fun y hy => h y (List.mem_cons_of_mem _ hy)) _⟩

theorem along_append {p : World → Nat → Action → Prop} {run run' : List (Nat × Action)} {w : World} :
    Along p w (run ++ run') ↔ Along p w run ∧ Along p (runOf (run.map Prod.snd) w) run' := by
  induction run generalizing w with
  | nil => exact (iff_of_eq (true_and _)).symm
  | cons x run ih => exact (and_congr_right fun _ => ih).trans and_assoc.symm

/-- The funding transactions this callback pass sends are sent below the locktime of their swap. -/
def FundsInTime (w : World) (height : Nat) (a : Action) : Prop :=
  ∀ env, a = .callbacks env → ∀ said, (step a w).trace = said ++ w.trace →
    ∀ swap stored tx, .sendpsbt swap stored tx ∈ said → swap.isReverse = false →
      height < swap.locktime

/-- No swap that is ready is past its locktime when this callback pass begins. -/
def ReadyInTime (w : World) (height : Nat) (a : Action) : Prop :=
  ∀ env, a = .callbacks env → ∀ k swap, ReadyToFund w k swap → height < swap.locktime

variable {env : Env} {w₀ w w' : World}

/-! ## What the callback pass leaves -/

/-- Hold invoices and swaps in the middle of a callback pass, compared with its beginning. -/
structure InPass (w₀ w : World) : Prop where
  holds : ∀ k inv, w.holdInvoices.get? k = some inv → ∃ inv₀, w₀.holdInvoices.get? k = some inv₀ ∧
    inv₀.associatedInvoice = inv.associatedInvoice ∧
    (inv.fundingStatus = .funded → inv₀.fundingStatus = .funded)
  swaps : ∀ k ref, w.swaps.get? k = some ref → w₀.swaps.get? k = some ref
  heap : ∀ ref, (w.heap ref).locktime = (w₀.heap ref).locktime ∧
    ((w.heap ref).fundingTxid = none → (w₀.heap ref).fundingTxid = none)
  sent : ∃ said, w.trace = said ++ w₀.trace ∧ ∀ swap stored tx, .sendpsbt swap stored tx ∈ said →
    ∃ k ready, ReadyToFund w₀ k ready ∧ ready.locktime = swap.locktime

theorem Alters.in_pass {k : Hex} {inv inv' : HoldInvoice}
    (hal : Alters (.callbacks env) w k inv inv') :
    inv'.associatedInvoice = inv.associatedInvoice ∧
      (inv'.fundingStatus = .funded → inv.fundingStatus = .funded) := by
  cases hal with
  | bundle q _ hq => cases hq
  | replay request existing ha => cases ha
  | add request now ha => cases ha
  | fund request ha => cases ha
  | fail env' ha => cases ha
  | reorder order ha => cases ha
  | settle => exact ⟨rfl, fun h => nomatch h⟩
  | resolve => exact ⟨rfl, id⟩

theorem InPass.move (hmove : Move (.callbacks env) w₀ w w') (hw : InPass w₀ w) : InPass w₀ w' where
  holds k inv hinv := by
    cases hmove.holdOrigin hinv with
    | same hinv => exact hw.holds k inv hinv
    | altered inv₁ hinv₁ hal =>
      obtain ⟨inv₀, hinv₀, hassoc, hfunded⟩ := hw.holds k inv₁ hinv₁
      exact ⟨inv₀, hinv₀, hassoc.trans hal.in_pass.1.symm, fun h => hfunded (hal.in_pass.2 h)⟩
    | fresh hfresh =>
      obtain ⟨_, _, hpair, -⟩ := hfresh.pair
      cases hpair
  swaps k ref href := by
    cases hmove.swapChange with
    | none hs => rw [hs.swaps] at href; exact hw.swaps k ref href
    | alloc swap => exact hw.swaps k ref href
    | store ref' _ htracks =>
      rcases htracks with ⟨-, hnew, -⟩ | ⟨-, env', address, ha⟩
      · obtain ⟨_, _, _, ha, -⟩ := hnew.locktime
        cases ha
      · cases ha
    | pop k' => exact hw.swaps k ref ((Quiet.popSwap k' w).swaps k ref href)
    | assign ref' f env' address ha => cases ha
    | watch ref' => exact hw.swaps k ref href
    | unwatch address => exact hw.swaps k ref href
  heap ref := by
    cases hmove.swapChange with
    | none hs => rw [hs.heap]; exact hw.heap ref
    | alloc swap hnew =>
      obtain ⟨_, _, _, ha, -⟩ := hnew.locktime
      cases ha
    | store ref' _ htracks =>
      rcases htracks with ⟨-, hnew, -⟩ | ⟨-, env', address, ha⟩
      · obtain ⟨_, _, _, ha, -⟩ := hnew.locktime
        cases ha
      · cases ha
    | pop k' => rw [(Quiet.popSwap k' w).heap]; exact hw.heap ref
    | assign ref' f env' address ha => cases ha
    | watch ref' => exact hw.heap ref
    | unwatch address => exact hw.heap ref
  sent := by
    obtain ⟨said, hsaid, hsent⟩ := hw.sent
    rcases hmove.told.log with heq | ⟨e, he, heq⟩
    · exact ⟨said, heq.trans hsaid, hsent⟩
    · refine ⟨e :: said, by rw [heq, hsaid]; rfl, fun swap stored tx hmem => ?_⟩
      rcases List.mem_cons.mp hmem with rfl | hmem
      · exact he.elim
      · exact hsent swap stored tx hmem

omit [Deployment] in
theorem InPass.start (w₀ : World) : InPass w₀ w₀ where
  holds _ inv hinv := ⟨inv, hinv, rfl, id⟩
  swaps _ _ href := href
  heap _ := ⟨rfl, id⟩
  sent := ⟨[], rfl, fun _ _ _ hmem => nomatch hmem⟩

omit [Deployment] in
/-- An event that is not a funding transaction. -/
theorem InPass.create (ref : SwapRef) (hw : InPass w₀ w) : InPass w₀ (w.createFunding ref) where
  holds := hw.holds
  swaps := hw.swaps
  heap := hw.heap
  sent := by
    obtain ⟨said, hsaid, hsent⟩ := hw.sent
    refine ⟨_ :: said, congrArg (List.cons _) hsaid, fun swap stored tx hmem => ?_⟩
    rcases List.mem_cons.mp hmem with heq | hmem
    · cases heq
    · exact hsent swap stored tx hmem

omit [Deployment] in
/-- The swap of a due callback was ready when the pass began. -/
theorem InPass.ready {w₁ : World} {main : HoldInvoice} {ref : SwapRef} (hw₁ : InPass w₀ w₁)
    (hdue : Due w₀ w₁ main) (hsame : SwapsSame w₁ w)
    (href : w.swaps.get? (hex main.paymentHash) = some ref)
    (hnone : (w.heap ref).fundingTxid = none) :
    ReadyToFund w₀ (hex main.paymentHash) (w₀.heap ref) := by
  obtain ⟨main₀, hmain₀, hassoc, hfunded⟩ := hw₁.holds _ main hdue.stored
  refine ⟨hdue.registered, ⟨main₀, hmain₀, hfunded hdue.funded, fun p hp => ?_⟩, ?_, ?_⟩
  · obtain ⟨prepay, hprepay, hpaid⟩ := hdue.prepaid p (hassoc.symm.trans hp)
    obtain ⟨prepay₀, hprepay₀, -, hpaid₀⟩ := hw₁.holds _ prepay hprepay
    exact ⟨prepay₀, hprepay₀, hpaid₀ hpaid⟩
  · rw [hsame.swaps] at href
    unfold World.swap?
    rw [hw₁.swaps _ ref href]
    rfl
  · rw [hsame.heap] at hnone
    exact (hw₁.heap ref).2 hnone

omit [Deployment] in
theorem InPass.send {main : HoldInvoice} {ref : SwapRef} {tx : FundingTx}
    (hready : ReadyToFund w₀ (hex main.paymentHash) (w₀.heap ref)) (hw : InPass w₀ w) :
    InPass w₀ (w.send ref tx) where
  holds k inv hinv := by
    apply hw.holds k inv
    rw [← World.assign_holdInvoices ref _ w]
    exact hinv
  swaps k ref' href := by
    apply hw.swaps k ref'
    rw [← World.assign_swaps ref _ w]
    exact href
  heap ref' := by
    show ((w.assign ref _).heap ref').locktime = _ ∧ (((w.assign ref _).heap ref').fundingTxid = none → _)
    rw [World.assign_heap]
    by_cases hr : ref' = ref
    · subst hr
      rw [Function.update_self]
      exact ⟨(hw.heap ref').1, fun h => nomatch h⟩
    · rw [Function.update_of_ne hr]
      exact hw.heap ref'
  sent := by
    obtain ⟨said, hsaid, hsent⟩ := hw.sent
    refine ⟨_ :: said, congrArg (List.cons _) ((World.assign_trace _ _ _).trans hsaid),
      fun swap stored tx' hmem => ?_⟩
    rcases List.mem_cons.mp hmem with heq | hmem
    · refine ⟨_, _, hready, ?_⟩
      cases heq
      rw [World.assign_heap_self]
      exact (hw.heap ref).1.symm
    · exact hsent swap stored tx' hmem

theorem survives_inPass : Survives (.callbacks env) w₀ (InPass w₀) where
  move _ _ hmove hw := hw.move hmove
  restart _ _ ha := ha.elim
  create _ _ _ ref _ _ _ hw _ _ := hw.create ref
  send _ _ _ _ _ hw₁ hdue hprepared hw href hnone :=
    hw.send (hw₁.ready hdue hprepared.same href hnone)

/-- A pass only funds what was ready when it began. -/
theorem funds_ready {said : List Event} (hsaid : (step (.callbacks env) w).trace = said ++ w.trace)
    {swap : SwapData} {stored : Option SwapData} {tx : FundingTx}
    (hmem : .sendpsbt swap stored tx ∈ said) :
    ∃ k ready, ReadyToFund w k ready ∧ ready.locktime = swap.locktime := by
  have hstep : InPass w (step (.callbacks env) w) :=
    step_invariant survives_inPass (InPass.start w)
  obtain ⟨said', hsaid', hsent⟩ := hstep.sent
  have heq : said' = said := List.append_cancel_right (hsaid'.symm.trans hsaid)
  exact hsent swap stored tx (heq ▸ hmem)

/-- **Funded in time**: in a run in which no pass finds a ready swap past its locktime, every funding
transaction is sent below the locktime of its swap. -/
theorem funds_in_time (run : List (Nat × Action)) (h : Along ReadyInTime World.start run) :
    Along FundsInTime World.start run := by
  have hrun : ∀ run w, Along ReadyInTime w run → Along FundsInTime w run := by
    intro run
    induction run with
    | nil => exact fun _ _ => trivial
    | cons x run ih =>
      obtain ⟨height, a⟩ := x
      intro w hw
      refine ⟨?_, ih (step a w) hw.2⟩
      rintro env rfl said hsaid swap stored tx hmem -
      obtain ⟨k, ready, hready, hlocktime⟩ := funds_ready hsaid hmem
      rw [← hlocktime]
      exact hw.1 env rfl k ready hready
  exact hrun run World.start h

end

section Sample

open Sample

attribute [local instance] Sample.deployment

/-- The client's swap is created and paid at the sample's height. -/
def paidInTime : List (Nat × Action) :=
  (boot ++ [Action.request Sample.env (createswap 50000), deliver 1 paymentHash 49728000,
    deliver 2 prepayHash 272000]).map fun a => (900000, a)

/-- The callback pass comes at this height. -/
def passAt (height : Nat) : Action := .callbacks { Sample.env with localHeight := some height }

/-- A funding transaction sent past the locktime. -/
def Event.sentPast (height : Nat) : Event → Bool
  | .sendpsbt swap _ _ => !swap.isReverse && decide (swap.locktime ≤ height)
  | _ => false

theorem funds_after_locktime :
    Blocks (paidInTime ++ [(900100, passAt 900100)]) ∧
      DistinctHashes ((paidInTime ++ [(900100, passAt 900100)]).map Prod.snd) ∧
      ¬ Along FundsInTime World.start (paidInTime ++ [(900100, passAt 900100)]) := by
  refine ⟨⟨by decide +kernel, by decide +kernel⟩, by decide +kernel, fun h => ?_⟩
  have hfunds : FundsInTime (runOf (paidInTime.map Prod.snd) World.start) 900100 (passAt 900100) :=
    (along_append.mp h).2.1
  have hpass : InPass (runOf (paidInTime.map Prod.snd) World.start)
      (step (passAt 900100) (runOf (paidInTime.map Prod.snd) World.start)) :=
    step_invariant survives_inPass (InPass.start _)
  obtain ⟨said, hsaid, -⟩ := hpass.sent
  have hsent : (step (passAt 900100) (runOf (paidInTime.map Prod.snd) World.start)).trace.any
      (Event.sentPast 900100) = true := by decide +kernel
  have hbefore : (runOf (paidInTime.map Prod.snd) World.start).trace.any
      (Event.sentPast 900100) = false := by decide +kernel
  rw [hsaid, List.any_append, hbefore, Bool.or_false] at hsent
  obtain ⟨e, hmem, hpast⟩ := List.any_eq_true.mp hsent
  cases e with
  | sendpsbt swap stored tx =>
    obtain ⟨hnormal, hlate⟩ := Bool.and_eq_true_iff.mp hpast
    have hlt := hfunds _ rfl said hsaid swap stored tx hmem (by simpa using hnormal)
    exact absurd (of_decide_eq_true hlate) (Nat.not_le_of_lt hlt)
  | _ => cases hpast

theorem funds_in_time_paid :
    Along FundsInTime World.start (paidInTime ++ [(900010, passAt 900010)]) := by
  refine funds_in_time _ (along_append.mpr ⟨.of_forall (fun x hx w env ha => ?_) _,
    fun env ha k swap hready => ?_, trivial⟩)
  · have hno : ∀ x ∈ paidInTime, ∀ env, x.2 ≠ .callbacks env := by
      simp [paidInTime, boot, deliver]
    exact absurd ha (hno x hx env)
  · have hall : (runOf (paidInTime.map Prod.snd) World.start).swaps.items.all (fun item =>
        900010 < ((runOf (paidInTime.map Prod.snd) World.start).heap item.2).locktime) = true := by
      decide +kernel
    obtain ⟨ref, href, rfl⟩ := Option.map_eq_some_iff.mp hready.stored
    exact of_decide_eq_true (List.all_eq_true.mp hall (k, ref) (Dict.mem_of_get? href))

end Sample

end SubswapProvider
