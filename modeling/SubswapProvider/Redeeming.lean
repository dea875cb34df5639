import SubswapProvider.Saying
import SubswapProvider.Objects
import SubswapProvider.Following
import SubswapProvider.Tallying
import SubswapProvider.Terms

/-!
# What an HTLC is settled with

In no run is an HTLC settled with anything but a preimage of its own payment hash
(`resolved_with_preimage`): `HoldInvoice.settle` has hashed it, and the hook calls an invoice keeps are calls
about its payment hash, in memory and after every restart (`asked_throughout`).
-/

namespace SubswapProvider

open Deployment Effect

/-- The hook calls kept for the HTLCs of an invoice are about its payment hash. -/
def HoldInvoice.Asked (inv : HoldInvoice) : Prop :=
  ∀ h ∈ inv.incomingHtlcs, ∀ r, h.requestCallback = some r → r.htlc.paymentHash = inv.paymentHash

namespace HoldInvoice

variable {inv : HoldInvoice}

theorem Asked.of_callbacks {inv' : HoldInvoice} (h : inv.Asked)
    (hhash : inv'.paymentHash = inv.paymentHash)
    (hcallbacks : ∀ a ∈ inv'.incomingHtlcs, ∃ b ∈ inv.incomingHtlcs,
      a.requestCallback = b.requestCallback) : inv'.Asked := by
  intro a ha r hr
  obtain ⟨b, hb, heq⟩ := hcallbacks a ha
  rw [hhash]
  exact h b hb r (heq ▸ hr)

theorem asked_stored (inv : HoldInvoice) : inv.stored.Asked := by
  intro a ha r hr
  obtain ⟨b, -, rfl⟩ := mem_stored.mp ha
  cases hr

theorem Asked.setHtlcState (h : inv.Asked) (κ : HtlcKey) (st : HtlcState) :
    (inv.setHtlcState κ st).Asked := by
  refine h.of_callbacks rfl fun a ha => ?_
  obtain ⟨b, hb, rfl⟩ := List.mem_map.mp ha
  refine ⟨b, hb, ?_⟩
  split <;> rfl

theorem Asked.setFundingStatus (h : inv.Asked) (st : InvoiceState) : (inv.setFundingStatus st).Asked := h

theorem Asked.setHtlcCallback (h : inv.Asked) (κ : HtlcKey) {request : Request}
    (hr : request.htlc.paymentHash = inv.paymentHash) : (inv.setHtlcCallback κ request).Asked := by
  intro a ha r hreq
  obtain ⟨b, hb, rfl⟩ := List.mem_map.mp ha
  split at hreq
  · cases hreq
    exact hr
  · exact h b hb r hreq

theorem Asked.addHtlc (h : inv.Asked) {request : Request} (now : Nat)
    (hr : request.htlc.paymentHash = inv.paymentHash)
    (hfind : inv.findHtlc request.htlc.key = none) :
    (inv.addHtlc (Htlc.fromClnDict request.htlc request now)).Asked := by
  intro a ha r hreq
  rcases (HtlcSet.mem_add (s := inv.incomingHtlcs) (h := Htlc.fromClnDict request.htlc request now)
    hfind).mp ha with ha | rfl
  · exact h a ha r hreq
  · cases hreq
    exact hr

end HoldInvoice

section

variable [Deployment] {a : Action} {w₀ w w' : World}

theorem Alters.asked {k : Hex} {inv inv' : HoldInvoice} (hal : Alters a w k inv inv')
    (hinv : w.holdInvoices.get? k = some inv) (h : inv.Asked) : inv'.Asked := by
  have hkey := HoldInvoices.hex_paymentHash hinv
  cases hal with
  | bundle p hnone hpair => exact h
  | replay request existing ha hk hfind => exact h.setHtlcCallback _ (hex_inj.mp (hk ▸ hkey)).symm
  | add request now ha hk hfind => exact h.addHtlc now (hex_inj.mp (hk ▸ hkey)).symm hfind
  | resolve htlc request st res => exact h.setHtlcState htlc.key st
  | fund => exact h
  | fail => exact h
  | settle => exact h
  | reorder order ha => exact h.of_callbacks rfl fun a ha => ⟨a, HtlcSet.mem_reorder.mp ha, rfl⟩

/-- **The hook calls of every invoice are its own**, in every run. -/
theorem asked_throughout (actions : List Action) :
    HoldsThroughout (fun _ => HoldInvoice.Asked) (runOf actions World.start) := by
  induction actions using List.reverseRecOn with
  | nil => exact .start
  | append_singleton past a ih =>
    rw [runOf_append]
    have hsurvives : Survives a (runOf past World.start) fun w =>
        True ∧ HoldsThroughout (fun _ => HoldInvoice.Asked) w := by
      refine Survives.trivial.holds (fun inv _ => inv.asked_stored) (fun _ inv _ hfresh => ?_)
        fun _ _ _ _ _ hinv hal h => hal.asked hinv h
      intro h hmem
      rw [hfresh.htlcs] at hmem
      exact absurd hmem (HtlcSet.notMem_empty h)
    exact (step_invariant hsurvives ⟨trivial, ih⟩).2

/-! ## The answers -/

/-- An HTLC is settled with a preimage of its payment hash. -/
def Event.Redeems : Event → Prop
  | .answer r (.resolve x) => sha256 x = r.htlc.paymentHash
  | _ => True

/-- What every step keeps. -/
structure RedeemsOwn (w : World) : Prop where
  asked : ∀ k inv, w.holdInvoices.get? k = some inv → inv.Asked
  log : w.Says Event.Redeems

namespace RedeemsOwn

theorem congr (h : RedeemsOwn w) (hholds : w'.holdInvoices = w.holdInvoices) (hr : Recorded w w') :
    RedeemsOwn w' where
  asked := by rw [hholds]; exact h.asked
  log := h.log.recorded hr

theorem kept (h : RedeemsOwn w) (hk : Kept w w') : RedeemsOwn w' where
  asked := by rw [hk.holdInvoices]; exact h.asked
  log := h.log.kept hk

theorem say {e : Event} (h : RedeemsOwn w) (he : e.Redeems) : RedeemsOwn (w.say e) :=
  ⟨h.asked, h.log.say he⟩

theorem mutHoldInvoice {k : Hex} {f : HoldInvoice → HoldInvoice}
    {hf : ∀ inv, (f inv).paymentHash = inv.paymentHash} (h : RedeemsOwn w)
    (hP : ∀ inv, w.holdInvoices.get? k = some inv → inv.Asked → (f inv).Asked) :
    RedeemsOwn (w.mutHoldInvoice k f hf) where
  asked k' inv' hinv' := by
    have hget := (World.get?_mutHoldInvoice k').symm.trans hinv'
    split at hget
    · next hk =>
      subst hk
      obtain ⟨inv, hinv, rfl⟩ := Option.map_eq_some_iff.mp hget
      exact hP inv hinv (h.asked _ inv hinv)
    · exact h.asked k' inv' hget
  log := h.log.recorded ⟨rfl, rfl, rfl, rfl, rfl⟩

theorem popHoldInvoice (k : Hex) (h : RedeemsOwn w) : RedeemsOwn (w.popHoldInvoice k) where
  asked k' inv hinv := by
    unfold World.popHoldInvoice at hinv
    split at hinv
    · have hget := (HoldInvoices.get?_pop _ _ _).symm.trans hinv
      split at hget
      · cases hget
      · exact h.asked k' inv hget
    · exact h.asked k' inv hinv
  log := h.log.recorded (.popHoldInvoice w k)

/-- A step that is no hook call settles invoices only in the callback pass or in the chain callback. -/
theorem move (h : RedeemsOwn w) (hcallbacks : ∀ env, a ≠ .callbacks env)
    (hclaim : ∀ env address, a ≠ .claim env address) (hhook : a.hookRequest? = none)
    (hmove : Move a w₀ w w') : RedeemsOwn w' := by
  constructor
  · intro k inv' hinv'
    cases hmove.holdOrigin hinv' with
    | same hinv => exact h.asked k inv' hinv
    | altered inv hinv hal => exact hal.asked hinv (h.asked k inv hinv)
    | fresh hfresh =>
      intro h' hmem
      rw [hfresh.htlcs] at hmem
      exact absurd hmem (HtlcSet.notMem_empty h')
  · have hanswered : ∀ {u : World} (request : Request) (res : HookResult), Recorded w u →
        (Event.answer request res).Redeems → (u.answered request res).Says Event.Redeems := by
      intro u request res hu hres
      unfold World.answered
      split
      · exact (h.log.recorded hu).say trivial
      · exact (h.log.recorded hu).say hres
    cases hmove with
    | resolveHtlc k invoice htlc request st res hinvoice hmem hstate hrequest hres =>
      refine hanswered request res ⟨rfl, rfl, rfl, rfl, rfl⟩ ?_
      cases hres with
      | settle preimage hmay =>
        cases hmay with
        | prepay env main p ha => exact absurd ha (hcallbacks env)
        | claim env address ref ha => exact absurd ha (hclaim env address)
      | reject => trivial
      | cancel => trivial
    | answerHook request res ha =>
      rw [hhook] at ha
      cases ha
    | say e he =>
      refine h.log.say ?_
      cases e with
      | answer => exact he.elim
      | _ => trivial
    | payInvoice key => exact h.log.say trivial
    | consolidate => exact h.log.wrote rfl rfl rfl
    | append => exact h.log.wrote rfl rfl rfl
    | setPreimage k v => exact h.log.recorded (.setPreimage w k v)
    | popPreimage k _ => exact h.log.recorded (.popPreimage w k)
    | setInvoice k v => exact h.log.recorded (.setInvoice w k v)
    | popInvoice k => exact h.log.recorded (.popInvoice w k)
    | createHold invoice => exact h.log.recorded (.setHoldInvoice w invoice)
    | updateHold k invoice => exact h.log.recorded (.replaceHold w k invoice)
    | bundle k invoice p => exact h.log.recorded (.replaceHold w k _)
    | popHold k => exact h.log.recorded (.popHoldInvoice w k)
    | popSwap k => exact h.log.recorded (.popSwap w k)
    | assign ref f => exact h.log.recorded (.assign w ref f)
    | _ => exact h.log.recorded ⟨rfl, rfl, rfl, rfl, rfl⟩

theorem quiet {α : Type} {p : PyM α} (h : ∀ w₀, Keeps (Quiet w₀) p) : Keeps RedeemsOwn p :=
  Keeps.of_rel h Quiet.refl fun _ _ hst hs => hs.kept hst.toKept

theorem assign (ref : SwapRef) (f : SwapData → SwapData) :
    Keeps RedeemsOwn (modify (World.assign ref f) : PyM PUnit) :=
  Keeps.modify fun w hw => hw.kept (Kept.assign ref f w)

end RedeemsOwn

/-- Settling an invoice whose hook calls are its own. -/
theorem redeems_settleInvoice {invoice : HoldInvoice} (hasked : invoice.Asked)
    (preimage : Option Bytes) : Keeps RedeemsOwn (settleInvoice invoice preimage) := by
  apply keeps_settleInvoice
  · exact fun k κ st w hw => hw.mutHoldInvoice fun inv _ h => h.setHtlcState κ st
  · exact fun k st w hw => hw.mutHoldInvoice fun inv _ h => h.setFundingStatus st
  · intro x hhash htlc hmem request hrequest
    have hown : sha256 x = request.htlc.paymentHash :=
      ((hasked htlc hmem request hrequest).trans hhash).symm
    exact keeps_setResult (fun _ hw => hw.say hown) fun _ hw => hw.say trivial
  · exact fun _ _ hw => hw.say trivial

/-! ### The callback pass -/

theorem redeems_holdInvoiceCallback (env : Env) (payment_hash : Bytes) :
    Keeps RedeemsOwn (holdInvoiceCallback env payment_hash) := by
  unfold holdInvoiceCallback createFundingTx broadcastFundingTx
  refine Keeps.get fun w => ?_
  split
  · exact Keeps.pure
  next ref href =>
  refine Keeps.ite (Keeps.bind ?_ fun tx => Keeps.tryCatch ?_ fun _ =>
    RedeemsOwn.quiet fun w₀ => quiet_failSwap env w₀ ref) Keeps.pure
  · exact Keeps.get fun _ => Keeps.bind (Keeps.modify fun _ hw => hw.say trivial) fun _ =>
      Keeps.bind (keeps_orRaise _ _) fun _ => keeps_createTransaction _ _
  · exact Keeps.bind (RedeemsOwn.assign ref _) fun _ => Keeps.get fun _ =>
      Keeps.bind (Keeps.modify fun _ hw => hw.say trivial) fun _ => Keeps.ite Keeps.pure Keeps.throw

theorem redeems_callbackHandler (env : Env) :
    Keeps RedeemsOwn (callbackHandler env (callOf env)) := by
  have hmoves : ∀ {p : PyM Unit}, Moves (Move .initSwapManager World.start) p → Keeps RedeemsOwn p :=
    fun h => h.keeps fun _ _ hmove hs =>
      hs.move (fun _ => by simp) (fun _ _ => by simp) rfl hmove
  apply keeps_callbackPass
  · exact fun k => hmoves (moves_unregister k)
  · intro w p prepay preimage hw hprepay
    exact (redeems_settleInvoice (hw.asked _ prepay hprepay) preimage).pre fun s hs => hs ▸ hw
  · exact fun h => hmoves (moves_updateInvoice env h)
  · exact fun _ _ hw => hw.say trivial
  · exact redeems_holdInvoiceCallback env

/-! ### The chain callback -/

theorem redeems_deleteHoldInvoice (env : Env) (k : Hex) (write_db : Bool) :
    Keeps RedeemsOwn (deleteHoldInvoice env k write_db) :=
  Keeps.bind (Keeps.modify fun _ hw => hw.congr rfl ⟨rfl, rfl, rfl, rfl, rfl⟩) fun _ => Keeps.get fun _ =>
    Keeps.ite (Keeps.bind (Keeps.modify fun _ hw => hw.popHoldInvoice k) fun _ => Keeps.ite
      (RedeemsOwn.quiet (quiet_dbWrite env)) Keeps.pure) Keeps.pure

theorem redeems_finishNormalSwap (env : Env) (ref : SwapRef) :
    Keeps RedeemsOwn (finishNormalSwap env ref) := by
  unfold finishNormalSwap
  refine Keeps.getBind fun w hw => ?_
  have hstay : ∀ s, s = w → RedeemsOwn s := fun s hs => hs ▸ hw
  refine triple_pyAssert hstay fun _ => ?_
  split
  · exact Triple.throw hstay
  next invoice hinvoice =>
  refine Triple.pre (R := RedeemsOwn) ?_ hstay
  refine Keeps.bind (redeems_settleInvoice (hw.asked _ invoice hinvoice) _) fun _ =>
    Keeps.bind (redeems_deleteHoldInvoice env _ _) fun _ => Keeps.bind ?_ fun _ =>
    Keeps.bind (RedeemsOwn.quiet fun w₀ => quiet_deletePaymentInfo env w₀ _ _) fun _ =>
    Keeps.bind (RedeemsOwn.quiet fun w₀ => quiet_removeCallback w₀ _) fun _ =>
    Keeps.bind (RedeemsOwn.quiet fun w₀ => quiet_popSwapOrRaise w₀ _) fun _ =>
    RedeemsOwn.quiet (quiet_dbWrite env)
  split
  · exact redeems_deleteHoldInvoice env _ _
  · exact Keeps.pure

theorem redeems_claimNormal (env : Env) (ref : SwapRef) (txin : PartialTxInput)
    (remaining_time conf : Int) :
    Keeps RedeemsOwn (claimNormal env ref txin remaining_time conf) := by
  unfold claimNormal
  refine Keeps.get fun w => Keeps.bind ?_ fun outcome => keeps_takeRefund env txin
    (fun _ => RedeemsOwn.assign ref _) (fun _ => Keeps.modify fun _ hw => hw.say trivial) _ _ outcome
  split
  · unfold inspectSpend
    refine Keeps.get fun _ => Keeps.bind (keeps_orRaise _ _) fun _ => Keeps.bind (keeps_orRaise _ _)
      fun _ => Keeps.bind (keeps_orRaise _ _) fun _ => Keeps.bind (keeps_liftExcept _)
      fun extracted => ?_
    cases extracted with
    | some preimage =>
      exact Keeps.bind (RedeemsOwn.assign ref _) fun _ =>
        Keeps.bind (redeems_finishNormalSwap env ref) fun _ => Keeps.pure
    | none =>
      exact Keeps.ite (Keeps.bind (RedeemsOwn.assign ref _) fun _ => Keeps.bind
        (RedeemsOwn.quiet fun w₀ => quiet_failSwap env w₀ ref) fun _ => Keeps.pure)
        (Keeps.ite (Keeps.bind (keeps_orRaise _ _) fun _ => Keeps.pure) Keeps.pure)
  · exact Keeps.pure

theorem redeems_claimReverse (env : Env) (ref : SwapRef) (txin : PartialTxInput)
    (remaining_time conf : Int) :
    Keeps RedeemsOwn (claimReverse env ref txin remaining_time conf) := by
  have hquiet : ∀ toPay, Keeps RedeemsOwn
      (modify fun w : World => { w with invoicesToPay := toPay } : PyM PUnit) := fun toPay =>
    Keeps.modify fun _ hw => hw.congr rfl ⟨rfl, rfl, rfl, rfl, rfl⟩
  unfold claimReverse
  refine Keeps.get fun w => Keeps.bind ?_ fun _ => Keeps.get fun w' => Keeps.ite ?_
    (Keeps.ite Keeps.pure (keeps_broadcastClaim env txin (fun _ => RedeemsOwn.assign ref _)
      (fun _ => Keeps.modify fun _ hw => hw.say trivial) conf))
  · split
    · exact Keeps.pure
    · exact Keeps.bind (keeps_getPreimage _) fun _ => RedeemsOwn.assign ref _
  · unfold queuePayment
    refine Keeps.get fun s => Keeps.ite Keeps.pure ?_
    split
    · exact Keeps.throw
    · exact Keeps.ite (hquiet _) (Keeps.ite Keeps.pure (hquiet _))

theorem redeems_claimAddress (env : Env) (address : Address) :
    Keeps RedeemsOwn (claimAddress env address) := by
  unfold claimAddress
  refine Keeps.get fun w => ?_
  split
  next ref _ =>
    unfold claimSwap
    refine Keeps.bind (keeps_orRaise _ _) fun _ => Keeps.ite ?_ Keeps.pure
    refine Keeps.bind (keeps_orRaise _ _) fun height => Keeps.get fun _ =>
      Keeps.bind (keeps_orRaise _ _) fun _ => Keeps.bind (keeps_liftExcept _) fun selected => ?_
    cases selected with
    | none => exact Keeps.ite (RedeemsOwn.quiet fun w₀ => quiet_failSwap env w₀ ref) Keeps.pure
    | some txin =>
      show Keeps RedeemsOwn (claimFunded env ref height txin)
      unfold claimFunded addOrReindexSwap claimLocated
      refine Keeps.bind (RedeemsOwn.assign ref _) fun _ => Keeps.bind (Keeps.get fun s =>
          Keeps.ite Keeps.pure (Keeps.modify fun u hu => hu.kept (Kept.setSwap _ ref u))) fun _ =>
        Keeps.bind (keeps_orRaise _ _) fun conf =>
        Keeps.bind (Keeps.ite (RedeemsOwn.assign ref _) Keeps.pure) fun _ => Keeps.get fun _ => ?_
      exact Keeps.ite (Keeps.bind (RedeemsOwn.assign ref _) fun _ =>
          RedeemsOwn.quiet fun w₀ => quiet_deleteFinishedReverseSwap env w₀ ref)
        (Keeps.ite (redeems_claimReverse env ref txin _ conf)
          (redeems_claimNormal env ref txin _ conf))
  · exact Keeps.pure

/-! ### The hook -/

/-- The hook itself fails HTLCs and hands them on; it settles none. -/
theorem redeems_pluginHtlcAcceptedHook (env : Env) (forward : Bool) (payment_secret : Option Bytes)
    (request : Request) : Keeps (World.Says Event.Redeems)
      (pluginHtlcAcceptedHook env forward payment_secret request) := by
  have hresult : ∀ r res, (∀ x, res ≠ .resolve x) →
      Keeps (World.Says Event.Redeems) (setResult r res) := by
    intro r res hres
    refine keeps_setResult (fun _ hw => hw.say ?_) fun _ hw => hw.say trivial
    cases res with
    | resolve x => exact absurd rfl (hres x)
    | _ => trivial
  have hmut : ∀ k f hf, Keeps (World.Says Event.Redeems)
      (modify (fun w => World.mutHoldInvoice k f hf w) : PyM PUnit) := fun _ _ _ =>
    Keeps.modify fun _ hw => hw.recorded ⟨rfl, rfl, rfl, rfl, rfl⟩
  have hcontinue : ∀ r, Keeps (World.Says Event.Redeems) (setResult r .continue_) := fun r =>
    hresult r _ fun _ => by simp
  unfold pluginHtlcAcceptedHook
  refine Keeps.ite (hcontinue request) (Keeps.get fun w => ?_)
  split
  · exact hcontinue request
  next invoice _ =>
  refine Keeps.tryCatch (Keeps.bind ?_ fun changed => Keeps.ite ?_ Keeps.pure) fun _ => hcontinue request
  · unfold handleHtlc
    dsimp only
    split
    · exact Keeps.bind (hmut _ _ _) fun _ => Keeps.pure
    · refine Keeps.bind (hmut _ _ _) fun _ => ?_
      split
      · exact Keeps.throw
      · unfold failHtlc resolveHtlc
        refine Keeps.bind (Keeps.ite ?_ Keeps.throw) fun _ => Keeps.pure
        split
        · exact Keeps.throw
        · exact Keeps.bind (hmut _ _ _) fun _ => hresult _ _ fun _ => by simp
      · exact Keeps.ite (Keeps.bind (hmut _ _ _) fun _ =>
          Keeps.bind (Keeps.modify fun _ hw => hw.say trivial) fun _ => Keeps.pure) Keeps.pure
  · unfold updateInvoice
    refine Keeps.get fun _ => ?_
    split
    · exact Keeps.throw
    · exact Keeps.bind (Keeps.modify fun u hu => hu.recorded (.popHoldInvoice u _)) fun _ =>
        Keeps.bind (Keeps.modify fun u hu => hu.recorded (.setHoldInvoice u _)) fun _ =>
        Keeps.of_rel (quiet_dbWrite env) Quiet.refl fun _ _ hst hs => hs.kept hst.toKept

/-! ### The run -/

theorem redeemsOwn (actions : List Action) : RedeemsOwn (runOf actions World.start) := by
  have hasked : ∀ actions k inv, (runOf actions World.start).holdInvoices.get? k = some inv →
      inv.Asked := fun actions => (asked_throughout actions).live
  refine ⟨hasked actions, ?_⟩
  induction actions using List.reverseRecOn with
  | nil => exact .start
  | append_singleton past a ih =>
    have hpast : RedeemsOwn (runOf past World.start) := ⟨hasked past, ih⟩
    rw [runOf_append]
    by_cases ha : ∃ env, a = .callbacks env
    · obtain ⟨env, rfl⟩ := ha
      exact ((redeems_callbackHandler env).final hpast).log
    by_cases hclaim : ∃ env address, a = .claim env address
    · obtain ⟨env, address, rfl⟩ := hclaim
      exact ((redeems_claimAddress env address).final hpast).log
    by_cases hhook : ∃ env forward payment_secret r, a = .htlc env forward payment_secret r
    · obtain ⟨env, forward, payment_secret, r, rfl⟩ := hhook
      exact (redeems_pluginHtlcAcceptedHook env forward payment_secret r).final ih
    by_cases hrestart : a.Restarts
    · exact step_restarts hrestart ih fun env view hview => ih.restart env hview
    · have hrequest : a.hookRequest? = none := by
        cases a with
        | htlc env forward payment_secret r => exact absurd ⟨_, _, _, _, rfl⟩ hhook
        | _ => rfl
      have hwalk := (walks_programOf a (runOf past World.start) (fun env he => ha ⟨env, he⟩)
        hrestart).keeps (I := RedeemsOwn) fun _ _ hmove hs => hs.move (fun env he => ha ⟨env, he⟩)
          (fun env address he => hclaim ⟨env, address, he⟩) hrequest hmove
      exact ((hwalk.conseq (fun _ hs => hs) (fun _ _ hs => hs.1) fun _ _ hs => hs).final
        (P := fun s => RedeemsOwn s ∧ s = runOf past World.start) ⟨hpast, rfl⟩).log

/-- **What an HTLC is settled with.** In every run, whatever fails or is restarted and whatever payment
hashes clients reuse, a hook call is answered with a preimage only if it hashes to the payment hash of
the HTLC of that call. -/
theorem resolved_with_preimage (actions : List Action) {r : Request} {x : Bytes}
    (h : .answer r (.resolve x) ∈ (runOf actions World.start).trace) : sha256 x = r.htlc.paymentHash :=
  (redeemsOwn actions).log.log _ h

end

section Sample

open Sample

attribute [local instance] Sample.deployment

theorem resolved_with_preimage_prepay : ∃ r x,
    .answer r (.resolve x) ∈ (runOf fundedRun World.start).trace ∧ sha256 x = r.htlc.paymentHash := by
  have hany : (runOf fundedRun World.start).trace.any
      (fun e => match e with | .answer _ (.resolve _) => true | _ => false) = true := by decide +kernel
  obtain ⟨e, he, hanswer⟩ := List.any_eq_true.mp hany
  split at hanswer
  · next r x => exact ⟨r, x, he, resolved_with_preimage fundedRun he⟩
  · cases hanswer

end Sample

end SubswapProvider
