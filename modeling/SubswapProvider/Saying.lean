import SubswapProvider.Throughout

/-!
# What the process says

An invariant of the log alone (`World.Says`), and the two programs whose events it has to look into: settling
an invoice, which answers HTLCs, and the callback pass. The log outlives the process, and a crash goes back to
a point of it, so the points of the process are part of the invariant.
-/

namespace SubswapProvider

open Deployment Effect

/-- `Q` holds of everything that has been said, at every point the process can end at. -/
structure World.Says (Q : Event → Prop) (w : World) : Prop where
  log : ∀ e ∈ w.trace, Q e
  views : ∀ v ∈ w.views, ∀ e ∈ v.said, Q e

namespace World.Says

variable {Q : Event → Prop} {w w' : World}

theorem start : World.start.Says Q where
  log e he := nomatch he
  views v hv e he := by
    cases List.mem_singleton.mp hv
    cases he

theorem recorded (h : w.Says Q) (hr : Recorded w w') : w'.Says Q where
  log := by rw [hr.trace]; exact h.log
  views := by rw [hr.views]; exact h.views

theorem say {e : Event} (h : w.Says Q) (he : Q e) : (w.say e).Says Q := by
  have hlog : ∀ e' ∈ e :: w.trace, Q e' := List.forall_mem_cons.mpr ⟨he, h.log⟩
  refine ⟨hlog, fun v hv => ?_⟩
  rcases List.mem_cons.mp hv with rfl | hv
  · exact hlog
  · exact h.views v hv

/-- After a write there is one more point, at which nothing else has been said. -/
theorem wrote {v₀ : View} (h : w.Says Q) (htrace : w'.trace = w.trace) (hsaid : v₀.said = w.trace)
    (hviews : w'.views = v₀ :: w.views) : w'.Says Q where
  log := by rw [htrace]; exact h.log
  views := by
    rw [hviews]
    refine List.forall_mem_cons.mpr ⟨?_, h.views⟩
    rw [hsaid]
    exact h.log

theorem kept (h : w.Says Q) (hk : Kept w w') : w'.Says Q := by
  refine ⟨by rw [hk.trace]; exact h.log, fun v hv => ?_⟩
  rcases hk.views v hv with hv | ⟨hsaid, -⟩
  · exact h.views v hv
  · rw [hsaid]
    exact h.log

theorem told (h : w.Says Q) (ht : Told w w') (hQ : ∀ e : Event, e.OfMove → Q e) : w'.Says Q := by
  cases ht with
  | recorded hr => exact h.recorded hr
  | consolidated => exact h.wrote rfl rfl rfl
  | appended => exact h.wrote rfl rfl rfl
  | said hr e he => exact (h.recorded hr).say (hQ e he)

theorem restart [Deployment] (env : Env) {view : View} (hview : view = ⟨w.db, w.trace⟩ ∨ view ∈ w.views)
    (h : w.Says Q) : (w.restart env view).Says Q := by
  have hsaid : ∀ e ∈ view.said, Q e := by
    rcases hview with rfl | hview
    · exact h.log
    · exact h.views view hview
  unfold World.restart
  split
  · exact h
  · refine ⟨hsaid, fun v hv => ?_⟩
    rw [List.mem_singleton.mp hv]
    exact hsaid

theorem mono {R : Event → Prop} (h : w.Says Q) (hQR : ∀ e, Q e → R e) : w.Says R where
  log e he := hQR e (h.log e he)
  views v hv e he := hQR e (h.views v hv e he)

end World.Says

/-- **An invariant of the log**, checked where the funding transaction is made and sent. -/
theorem Survives.saying [Deployment] {a : Action} {w₀ : World} {I : World → Prop} {Q : Event → Prop}
    (hI : Survives a w₀ I) (hmove : ∀ e : Event, e.OfMove → Q e)
    (hcreate : ∀ w₁ w main ref, I w₁ → Due w₀ w₁ main → Prepared a w₀ w₁ w main → I w →
      w.swaps.get? (hex main.paymentHash) = some ref →
      Q (.createFundingTx (w.heap ref).paymentHash (w.heap ref) w.holdInvoices))
    (hsend : ∀ swap stored tx, Q (.sendpsbt swap stored tx)) :
    Survives a w₀ fun w => I w ∧ w.Says Q where
  move w w' h hw := ⟨hI.move w w' h hw.1, hw.2.told h.told hmove⟩
  restart env view ha hview hw := ⟨hI.restart env view ha hview hw.1, hw.2.restart env hview⟩
  create w₁ w main ref hw₁ hdue hprepared hw href hnone :=
    ⟨hI.create w₁ w main ref hw₁.1 hdue hprepared hw.1 href hnone,
      hw.2.say (hcreate w₁ w main ref hw₁.1 hdue hprepared hw.1 href)⟩
  send w₁ w main ref tx hw₁ hdue hprepared hw href hnone :=
    ⟨hI.send w₁ w main ref tx hw₁.1 hdue hprepared hw.1 href hnone,
      (hw.2.recorded (.assign _ ref _)).say (hsend _ _ _)⟩

/-! ## The programs that speak -/

section

variable [Deployment] {I : World → Prop}

omit [Deployment] in
theorem keeps_setResult {request : Request} {res : HookResult}
    (hanswer : ∀ w, I w → I (w.say (.answer request res)))
    (hrefused : ∀ w, I w → I (w.say (.refused request res))) : Keeps I (setResult request res) :=
  Keeps.get fun _ => Keeps.ite (Keeps.bind (Keeps.modify hrefused) fun _ => Keeps.throw)
    (Keeps.modify hanswer)

/-- `HoldInvoice.settle` answers the HTLCs of the invoice with a preimage of its payment hash. -/
theorem keeps_settleInvoice {invoice : HoldInvoice} {preimage : Option Bytes}
    (hstate : ∀ k κ st w, I w → I (w.mutHoldInvoice k (·.setHtlcState κ st) fun _ => rfl))
    (hstatus : ∀ k st w, I w → I (w.mutHoldInvoice k (·.setFundingStatus st) fun _ => rfl))
    (hanswer : ∀ x, invoice.paymentHash = sha256 x → ∀ htlc ∈ invoice.incomingHtlcs, ∀ request,
      htlc.requestCallback = some request → Keeps I (setResult request (.resolve x)))
    (hsettled : ∀ x w, I w → I (w.say (.settled invoice.paymentHash x))) :
    Keeps I (settleInvoice invoice preimage) := by
  unfold settleInvoice
  cases preimage with
  | none => exact Keeps.throw
  | some x =>
    dsimp only
    refine triple_pyAssert (fun _ hs => hs) fun hhash => ?_
    refine Keeps.bind (Keeps.ite Keeps.pure Keeps.throw) fun _ => Keeps.bind ?_ fun _ =>
      Keeps.bind (Keeps.modify (hstatus _ _)) fun _ => Keeps.modify (hsettled x)
    refine Keeps.forM fun htlc hmem => Keeps.ite ?_ Keeps.pure
    unfold settleHtlc resolveHtlc
    refine Keeps.ite ?_ Keeps.throw
    cases hrequest : htlc.requestCallback with
    | none => exact Keeps.throw
    | some request =>
      exact Keeps.bind (Keeps.modify (hstate _ _ _)) fun _ =>
        hanswer x (of_decide_eq_true hhash) htlc hmem request hrequest

/-- The callback pass keeps what its parts keep. -/
theorem keeps_callbackPass {env : Env} (hunregister : ∀ k, Keeps I (unregisterHoldInvoiceCallback k))
    (hsettle : ∀ w p prepay preimage, I w → w.getHoldInvoice p = some prepay →
      Triple (· = w) (settleInvoice prepay preimage) (fun _ => I) fun _ => I)
    (hupdate : ∀ h, Keeps I (updateInvoice env h))
    (hinvoke : ∀ invoice w, I w → I (w.say (.invokeCallback invoice)))
    (hcall : ∀ h, Keeps I (holdInvoiceCallback env h)) :
    Keeps I (callbackHandler env (callOf env)) := by
  have hrest : ∀ invoice, Keeps I (invokeCallback (holdInvoiceCallback env) invoice) := fun invoice =>
    Keeps.get fun _ => Keeps.bind (Keeps.modify (hinvoke _)) fun _ =>
      Keeps.bind (hcall _) fun _ => hunregister _
  refine Keeps.get fun w => Keeps.tryCatch (Keeps.forM fun item _ => ?_) fun _ => Keeps.pure
  obtain ⟨k, callback⟩ := item
  cases callback
  show Keeps I (handleCallback env k (holdInvoiceCallback env))
  unfold handleCallback
  refine Keeps.getBind fun w hw => ?_
  have hstay : ∀ s, s = w → I s := fun s hs => hs ▸ hw
  split
  · exact (Keeps.ite (hunregister k) Keeps.throw).pre hstay
  · next invoice _ =>
    split
    · split
      · exact (hrest invoice).pre hstay
      · next p _ =>
        split
        · exact Triple.throw hstay
        · next prepay hprepay =>
          split
          · refine Triple.bind ((keeps_getPreimage (I := (· = w)) p).conseq (fun _ hs => hs)
              (fun _ _ hs => hs) fun _ s hs => hstay s hs) fun preimage => ?_
            refine Triple.bind (hsettle w p prepay preimage hw hprepay) fun _ => ?_
            exact Keeps.bind (hupdate _) fun _ => hrest invoice
          · exact Triple.pure hstay
    · exact Triple.pure hstay

end

end SubswapProvider
