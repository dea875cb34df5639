import SubswapProvider.Walking
import SubswapProvider.Writing

/-!
# The callback pass

The one change that `Moves.lean` leaves out is the funding transaction being sent. Here is the rule
for it: what holds at the start of the pass and is kept by the moves is kept by the pass, if it is
kept where the funding transaction is made and where it is sent (`keeps_callbackHandler`). What is
known there: the hold invoice was funded and so was its prepay invoice when the pass came to them
(`Due`); since then the prepay invoice has been settled and the store written (`Prepared`), as a document
with patches behind it if there was one before (`World.Headed`).
-/

namespace SubswapProvider

open Deployment Effect

/-- `create_funding_tx` is called for the swap `ref`. -/
def World.createFunding (ref : SwapRef) (w : World) : World :=
  w.say (.createFundingTx (w.heap ref).paymentHash (w.heap ref) w.holdInvoices)

/-- `broadcast_funding_tx` notes the transaction on the swap `ref` and sends it. -/
def World.send (ref : SwapRef) (tx : FundingTx) (w : World) : World :=
  let w' := w.assign ref fun swap => { swap with fundingTxid := some tx.txid }
  w'.say (.sendpsbt (w'.heap ref) (w'.storedSwap? (hex (w'.heap ref).paymentHash)) tx)

/-- The pass that started in `w₀` comes to the hold invoice `main` in `w₁`, and its callback is due. -/
structure Due (w₀ w₁ : World) (main : HoldInvoice) : Prop where
  registered : w₀.holdInvoiceCallbacks.contains (hex main.paymentHash) = true
  stored : w₁.getHoldInvoice main.paymentHash = some main
  funded : main.fundingStatus = .funded
  prepaid : ∀ p, main.associatedInvoice = some p →
    ∃ prepay, w₁.getHoldInvoice p = some prepay ∧ prepay.fundingStatus = .funded

section

variable [Deployment] {a : Action} {w₀ : World}

/-- A write that goes through leaves a content that a new process can load: there is a content already,
or the process writes its document as a whole. -/
def World.Headed (env : Env) (w : World) : Prop := w.db.blank = true → ∀ n, env.consolidates n = true

/-- The pass is ready to call the callback of `main`. -/
structure Prepared (a : Action) (w₀ w₁ w : World) (main : HoldInvoice) : Prop where
  pass : ∃ env, a = .callbacks env
  path : Relation.ReflTransGen (Move a w₀) w₁ w
  same : SwapsSame w₁ w
  settled : ∀ p, main.associatedInvoice = some p → ∀ d, w.Image d →
    ∃ prepay, d.holdInvoices.get? (hex p) = some prepay ∧ prepay.fundingStatus = .settled
  clean : ∀ p, main.associatedInvoice = some p → w.db.Clean
  headed : ∀ p, main.associatedInvoice = some p → ∃ w₂, Relation.ReflTransGen (Move a w₀) w₁ w₂ ∧
    ((∀ env, a = .callbacks env → w₂.Headed env) → w.db.headless = false)

omit [Deployment] in
/-- What is pending is written. -/
theorem headless_dbWrite {env : Env} {w : World} (hheaded : w.Headed env) (hpending : w.db.pending = true)
    (hmodified : w.db.modified = true) :
    Triple (· = w) (dbWrite env) (fun _ s => s.db.headless = false) fun _ _ => True := by
  rintro s rfl
  rw [dbWrite_run]
  by_cases hfails : (s.db.writes env && env.writeFails s.db.calls) = true
  · rw [if_pos hfails]
    trivial
  · rw [if_neg hfails]
    show (s.written env).db.headless = false
    unfold World.written
    rw [if_pos (Db.writes_of_pending hpending hmodified)]
    split
    · rfl
    · next happends =>
      obtain ⟨hplain, hhead⟩ := Bool.or_eq_false_iff.mp (Bool.eq_false_iff.mpr happends)
      have hfull : s.db.blank = false := by
        cases hblank : s.db.blank with
        | false => rfl
        | true =>
          rw [hheaded hblank] at hplain
          cases hplain
      show (s.db.headless || s.db.blank) = false
      rw [hhead, hfull]
      rfl

omit [Deployment] in
/-- A settled invoice is stored again, and written. -/
theorem triple_updateSettled (env : Env) {w : World} {p : Bytes} {inv : HoldInvoice}
    (hinv : w.holdInvoices.get? (hex p) = some inv) (hsettled : inv.fundingStatus = .settled) :
    Triple (· = w) (updateInvoice env p)
      (fun _ s => (∀ d, s.Image d → ∃ prepay, d.holdInvoices.get? (hex p) = some prepay ∧
        prepay.fundingStatus = .settled) ∧ s.db.Clean ∧ (w.Headed env → s.db.headless = false))
      fun _ _ => True := by
  unfold updateInvoice
  refine Triple.getBind fun s hs => ?_
  subst hs
  have hget : s.getHoldInvoice p = some inv := hinv
  have hk : hex inv.paymentHash = hex p := HoldInvoices.hex_paymentHash hinv
  rw [hget]
  refine Triple.modifyBind (R := (· = s.popHoldInvoice (hex p))) (fun s hs => by rw [hs]) ?_
  refine Triple.modifyBind (R := (· = s.replaceHold (hex p) inv)) (fun s hs => by rw [hs]; rfl) ?_
  have hlive : (s.holdInvoices.get? (hex p)).isSome = true := by rw [hinv]; rfl
  have hwritten := written_replaceHold env hlive hk
  have hheaded : s.Headed env → Triple (· = s.replaceHold (hex p) inv) (dbWrite env)
      (fun _ t => t.db.headless = false) fun _ _ => True := by
    intro hs
    apply headless_dbWrite
    all_goals rw [World.replaceHold_eq hlive hk]
    · exact hs
    · rfl
    · rfl
  rintro t rfl
  have hrun := (hwritten.and (clean_dbWrite env)) _ ⟨rfl, trivial⟩
  cases hr : dbWrite env (s.replaceHold (hex p) inv) with
  | error e t => trivial
  | ok u t =>
    rw [hr] at hrun
    refine ⟨fun d hd => ⟨inv.stored, hrun.1 d hd, hsettled⟩, hrun.2, fun hs => ?_⟩
    have hdone := hheaded hs _ rfl
    rw [hr] at hdone
    exact hdone

theorem Prepared.say {w₁ w : World} {main : HoldInvoice} {e : Event} (he : e.Plain)
    (h : Prepared a w₀ w₁ w main) : Prepared a w₀ w₁ (w.say e) main where
  pass := h.pass
  path := h.path.tail (Move.say w e he)
  same := h.same.trans ⟨rfl, rfl, rfl, rfl, rfl, rfl⟩
  settled := h.settled
  clean := h.clean
  headed := h.headed

/-- The wallet makes the funding transaction. -/
structure MakesTx (env : Env) (swap : SwapData) : Prop where
  amount : swap.onchainAmount.isSome = true
  fundpsbt : env.fundpsbt.isSome = true
  signpsbt : env.signpsbt.isSome = true

/-- A transaction of the wallet pays for the swap, and otherwise what the wallet has put in itself. -/
def MadeTx (env : Env) (swap : SwapData) (tx : FundingTx) : Prop :=
  ∃ amount change, swap.onchainAmount = some amount ∧ env.fundpsbt = some change ∧
    tx.outputs = change + {(swap.lockupAddress, amount)}

omit [Deployment] in
/-- **Spec of `create_funding_tx`.** -/
theorem triple_createFundingTx (env : Env) (ref : SwapRef) (w : World) :
    Triple (· = w) (createFundingTx env ref)
      (fun tx s => s = w.createFunding ref ∧ MakesTx env (w.heap ref) ∧ MadeTx env (w.heap ref) tx)
      (fun _ s => s = w.createFunding ref ∧ ¬ MakesTx env (w.heap ref)) := by
  unfold createFundingTx createTransaction
  refine Triple.getBind fun s hs => ?_
  subst hs
  refine Triple.modifyBind (R := (· = s.createFunding ref)) (fun s hs => by rw [hs]; rfl) ?_
  by_cases hmakes : MakesTx env (s.heap ref)
  · obtain ⟨amount, hamount⟩ := Option.isSome_iff_exists.mp hmakes.amount
    obtain ⟨change, hchange⟩ := Option.isSome_iff_exists.mp hmakes.fundpsbt
    obtain ⟨txid, htxid⟩ := Option.isSome_iff_exists.mp hmakes.signpsbt
    rw [hamount, orRaise_some, pure_bind, hchange, orRaise_some, pure_bind, htxid, orRaise_some,
      pure_bind]
    exact Triple.pure fun _ h => ⟨h, hmakes, amount, change, hamount, hchange, rfl⟩
  · refine triple_orRaise (fun _ h => ⟨h, hmakes⟩) fun amount hamount => ?_
    refine triple_orRaise (fun _ h => ⟨h, hmakes⟩) fun change hchange => ?_
    refine triple_orRaise (fun _ h => ⟨h, hmakes⟩) fun txid htxid => ?_
    refine absurd ⟨?_, ?_, ?_⟩ hmakes
    · exact Option.isSome_iff_exists.mpr ⟨amount, hamount⟩
    · exact Option.isSome_iff_exists.mpr ⟨change, hchange⟩
    · exact Option.isSome_iff_exists.mpr ⟨txid, htxid⟩

omit [Deployment] in
theorem broadcastFundingTx_run (env : Env) (ref : SwapRef) (tx : FundingTx) (w : World) :
    broadcastFundingTx env ref tx w =
      if env.sendpsbt then .ok () (w.send ref tx) else .error .TxBroadcastError (w.send ref tx) := by
  unfold broadcastFundingTx
  cases env.sendpsbt with
  | true => rfl
  | false => rfl

/-- What an invariant of a step has to survive. -/
structure Survives (a : Action) (w₀ : World) (I : World → Prop) : Prop where
  move : ∀ w w', Move a w₀ w w' → I w → I w'
  restart : ∀ env view, a.Restarts → view = ⟨w₀.db, w₀.trace⟩ ∨ view ∈ w₀.views →
    I w₀ → I (w₀.restart env view)
  create : ∀ w₁ w main ref, I w₁ → Due w₀ w₁ main → Prepared a w₀ w₁ w main → I w →
    w.swaps.get? (hex main.paymentHash) = some ref → (w.heap ref).fundingTxid = none →
    I (w.createFunding ref)
  send : ∀ w₁ w main ref tx, I w₁ → Due w₀ w₁ main → Prepared a w₀ w₁ w main →
    I (w.createFunding ref) → w.swaps.get? (hex main.paymentHash) = some ref →
    (w.heap ref).fundingTxid = none → I ((w.createFunding ref).send ref tx)

variable {I : World → Prop} {env : Env}

theorem triple_holdInvoiceCallback (hI : Survives a w₀ I) {w₁ : World} {main : HoldInvoice}
    (hw₁ : I w₁) (hdue : Due w₀ w₁ main) :
    Triple (fun s => I s ∧ Prepared a w₀ w₁ s main) (holdInvoiceCallback env main.paymentHash)
      (fun _ => I) fun _ => I := by
  unfold holdInvoiceCallback
  refine Triple.getBind fun w hw => ?_
  obtain ⟨hIw, hprepared⟩ := hw
  split
  · exact Triple.pure fun s hs => hs ▸ hIw
  · next ref href =>
    split
    · next hnone =>
      have hnone : (w.heap ref).fundingTxid = none := Option.isNone_iff_eq_none.mp hnone
      have hcreated : I (w.createFunding ref) :=
        hI.create w₁ w main ref hw₁ hdue hprepared hIw href hnone
      have hcreate : Triple (· = w) (createFundingTx env ref) (fun _ s => s = w.createFunding ref)
          fun _ => I :=
        (triple_createFundingTx env ref w).conseq (fun _ hs => hs) (fun _ _ hs => hs.1)
          fun _ _ hs => hs.1 ▸ hcreated
      refine Triple.bind hcreate fun tx => ?_
      have hsent : I ((w.createFunding ref).send ref tx) :=
        hI.send w₁ w main ref tx hw₁ hdue hprepared hcreated href hnone
      have hhad : w₀.Had ref ((w.createFunding ref).send ref tx) := by
        refine .inr ⟨hex main.paymentHash, ?_⟩
        have hswaps : ((w.createFunding ref).send ref tx).swaps = w.swaps :=
          World.assign_swaps ref _ (w.createFunding ref)
        rw [hswaps]
        exact href
      refine Triple.tryCatch (R := fun _ s => I s ∧ w₀.Had ref s) ?_ fun _ =>
        ((walks_failSwap env ref).keeps hI.move).post fun _ _ hs => hs.1
      intro s hs
      rw [hs, broadcastFundingTx_run]
      cases env.sendpsbt with
      | true => exact hsent
      | false => exact ⟨hsent, hhad⟩
    · exact Triple.pure fun s hs => hs ▸ hIw

theorem triple_invokeCallback (hI : Survives a w₀ I) {w₁ : World} {main : HoldInvoice}
    (hw₁ : I w₁) (hdue : Due w₀ w₁ main) :
    Triple (fun s => I s ∧ Prepared a w₀ w₁ s main)
      (invokeCallback (holdInvoiceCallback env) main) (fun _ => I) fun _ => I := by
  unfold invokeCallback
  refine Triple.getBind fun w hw => Triple.modifyBind
    (R := fun s => I s ∧ Prepared a w₀ w₁ s main) (fun s hs => ?_) ?_
  · subst hs
    exact ⟨hI.move _ _ (Move.say s _ trivial) hw.1, hw.2.say trivial⟩
  · exact Triple.bind (triple_holdInvoiceCallback hI hw₁ hdue) fun _ =>
      (moves_unregister _).keeps hI.move

theorem keeps_handleCallback (ha : a = .callbacks env) (hI : Survives a w₀ I) {k : Hex}
    (hk : w₀.holdInvoiceCallbacks.contains k = true) :
    Keeps I (handleCallback env k (holdInvoiceCallback env)) := by
  unfold handleCallback
  refine Triple.getBind fun w hw => ?_
  have hstay : ∀ s, s = w → I s := fun s hs => hs ▸ hw
  split
  · split
    · exact ((moves_unregister k).keeps hI.move).pre hstay
    · exact Triple.throw hstay
  · next main hmain =>
    have hkey : hex main.paymentHash = k := HoldInvoices.hex_paymentHash hmain
    have hstored : w.getHoldInvoice main.paymentHash = some main := by rw [← hmain, ← hkey]; rfl
    split
    · next hfunded =>
      split
      · next hnone =>
        have hprepaid : ∀ p, main.associatedInvoice = some p → False := by
          intro p hp
          rw [hnone] at hp
          cases hp
        refine (triple_invokeCallback hI hw ⟨hkey ▸ hk, hstored, hfunded,
          fun p hp => (hprepaid p hp).elim⟩).pre fun s hs => ?_
        subst hs
        exact ⟨hw, ⟨env, ha⟩, .refl, SwapsSame.refl s, fun p hp => (hprepaid p hp).elim,
          fun p hp => (hprepaid p hp).elim, fun p hp => (hprepaid p hp).elim⟩
      · next p hp =>
        split
        · exact Triple.throw hstay
        · next prepay hprepay =>
          split
          · next hprepaid =>
            have hdue : Due w₀ w main := by
              refine ⟨hkey ▸ hk, hstored, hfunded, fun q hq => ?_⟩
              rw [hp] at hq
              cases hq
              exact ⟨prepay, hprepay, hprepaid⟩
            have hkey' : hex prepay.paymentHash = hex p := HoldInvoices.hex_paymentHash hprepay
            have hwalked : ∀ s, Relation.ReflTransGen (Move a w₀) w s → I s := by
              intro s hs
              induction hs with
              | refl => exact hw
              | tail _ hmove ih => exact hI.move _ _ hmove ih
            refine Triple.bind ((keeps_getPreimage (I := (· = w)) p).conseq (fun _ hs => hs)
              (fun _ _ hs => hs) fun _ s hs => hstay s hs) fun preimage => ?_
            have hsettles : Walks (Move a w₀) (fun s => MaySettle a s (hex prepay.paymentHash) ∧
                s.holdInvoices.get? (hex prepay.paymentHash) = some prepay)
                (settleInvoice prepay preimage) fun _ s => ∃ inv,
                  s.holdInvoices.get? (hex prepay.paymentHash) = some inv ∧
                  inv.fundingStatus = .settled := moves_settleInvoice preimage
            have hsettle := (hsettles w).and (same_settleInvoice w prepay preimage)
            refine Triple.bind (hsettle.conseq (fun s hs => ?_) (fun _ _ hs => hs)
              fun _ s hs => hwalked s hs.1) fun _ => ?_
            · subst hs
              refine ⟨⟨.refl, .prepay env main p ha ?_ hfunded hp hkey', ?_⟩, SwapsSame.refl s⟩
              · rw [hkey]
                exact hmain
              · rw [hkey']
                exact hprepay
            refine Triple.at fun w₂ hw₂ => ?_
            obtain ⟨⟨hpath₂, inv, hinv, hsettled₂⟩, hsame₂⟩ := hw₂
            have hupdates : Moves (Move a w₀) (updateInvoice env prepay.paymentHash) :=
              moves_updateInvoice env _
            have hupdate := (hupdates w).and ((same_updateInvoice env w prepay.paymentHash).and
              (triple_updateSettled env hinv hsettled₂))
            refine Triple.bind (hupdate.conseq (fun s hs => ?_) (fun _ _ hs => hs)
              fun _ s hs => hwalked s hs.1) fun _ =>
              (triple_invokeCallback hI hw hdue).pre fun s hs => ?_
            · subst hs
              exact ⟨⟨hpath₂, trivial⟩, hsame₂, rfl⟩
            · obtain ⟨⟨hpath, -⟩, hsame, hsettled, hclean, hheaded⟩ := hs
              refine ⟨hwalked s hpath, ⟨env, ha⟩, hpath, hsame, fun q hq => ?_, fun _ _ => hclean,
                fun _ _ => ⟨w₂, hpath₂, fun hall => hheaded (hall env ha)⟩⟩
              rw [hp] at hq
              cases hq
              rw [← hkey']
              exact hsettled
          · exact Triple.pure hstay
    · exact Triple.pure hstay

/-- **The rule of the callback pass.** -/
theorem keeps_callbackHandler (ha : a = .callbacks env) (hI : Survives a w₀ I) :
    Triple (fun s => s = w₀ ∧ I s) (callbackHandler env (callOf env)) (fun _ => I) fun _ => I := by
  unfold callbackHandler
  refine Triple.getBind fun w hw => ?_
  obtain ⟨rfl, hIw⟩ := hw
  refine Triple.pre (R := I) (Keeps.tryCatch (Keeps.forM fun item hitem => ?_) fun _ => Keeps.pure)
    fun s hs => hs ▸ hIw
  have hregistered : w.holdInvoiceCallbacks.contains item.1 = true :=
    Dict.contains_iff.mpr ⟨item.2, Dict.get?_of_mem hitem⟩
  obtain ⟨k, callback⟩ := item
  cases callback
  exact keeps_handleCallback ha hI hregistered

/-- A restart goes on from a point of the process that ended. -/
theorem step_restarts {a : Action} {w₀ : World} {I : World → Prop} (ha : a.Restarts) (h : I w₀)
    (hrestart : ∀ env view, view = ⟨w₀.db, w₀.trace⟩ ∨ view ∈ w₀.views → I (w₀.restart env view)) :
    I (step a w₀) := by
  cases a with
  | reload env => exact hrestart env _ (.inl rfl)
  | crash env n =>
    show I (w₀.crash env n)
    unfold World.crash
    split
    · exact h
    · next view hview => exact hrestart env view (.inr (List.mem_of_getElem? hview))
  | _ => exact ha.elim

/-- **The step rule.** -/
theorem step_invariant {a : Action} {w₀ : World} {I : World → Prop} (hI : Survives a w₀ I)
    (h : I w₀) : I (step a w₀) := by
  by_cases ha : ∃ env, a = .callbacks env
  · obtain ⟨env, rfl⟩ := ha
    exact (keeps_callbackHandler rfl hI).final ⟨rfl, h⟩
  · by_cases hrestart : a.Restarts
    · exact step_restarts hrestart h fun env view hview => hI.restart env view hrestart hview h
    · have hwalk := (walks_programOf a w₀ (fun env he => ha ⟨env, he⟩) hrestart).keeps hI.move
      exact (hwalk.conseq (fun s hs => hs) (fun _ s hs => hs.1) fun _ _ hs => hs).final
        (P := fun s => I s ∧ s = w₀) ⟨h, rfl⟩

end

end SubswapProvider
