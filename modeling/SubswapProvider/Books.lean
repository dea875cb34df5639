import SubswapProvider.Holding
import SubswapProvider.System

/-!
# The methods of the hold invoices keep the books

`Sound` is what a state of the plugin says of its hold invoices: every stored one is `InvoiceOk`,
and with `tracked` every accepted HTLC is held and every funding decision so far was taken on HTLCs
that were held. Here the methods of `Htlc` and `HoldInvoice` and the table functions are shown to
keep it; the passes of the plugin follow in `Bookkeeping.lean`.
-/

namespace SubswapProvider

open Deployment Effect

section

variable (tracked durable : Prop) (target : HtlcKey → Option Bytes)

structure Sound (w : World) : Prop where
  invoices : EveryHold (InvoiceOk tracked target) w
  held : tracked → w.holdInvoices.Without (GivenBack w.trace)
  log : tracked → LogOk w.trace
  views : tracked → ∀ v ∈ w.views, LogOk v.said
  /-- The same as `held` for what the datastore has as accepted. -/
  saved : tracked → durable → w.Without (GivenBack w.trace)
  /-- Wherever the process could have ended: there the failures said last may not have been saved. -/
  points : tracked → durable → ∀ v ∈ w.views, ∀ d, v.db.disk = some d →
    d.holdInvoices.Without (GivenBack (v.said.dropWhile Event.fails))

/-- No stored invoice has the HTLC `κ` as accepted. -/
def NotHeld (κ : HtlcKey) (w : World) : Prop :=
  tracked → w.holdInvoices.Without (· = κ) ∧ (durable → w.Without (· = κ))

variable {tracked durable target} {w : World}

/-! ## Updates -/

namespace Sound

theorem kept {w' : World} (h : Sound tracked durable target w) (hk : Kept w w') :
    Sound tracked durable target w' where
  invoices := h.invoices.kept hk
  held ht := by
    rw [hk.trace, hk.holdInvoices]
    exact h.held ht
  log ht := hk.trace ▸ h.log ht
  views ht v hv := by
    rcases hk.views v hv with hv | ⟨hsaid, -⟩
    · exact h.views ht v hv
    · rw [hsaid]
      exact h.log ht
  saved ht hd := by
    rw [hk.trace]
    exact (h.saved ht hd).kept hk
  points ht hd v hv d hdisk := by
    rcases hk.views v hv with hv | ⟨hsaid, hnow⟩
    · exact h.points ht hd v hv d hdisk
    · rw [hsaid]
      exact ((h.saved ht hd).storedNow (hnow d hdisk)).dropWhile

/-- An invoice is found under its payment hash, which is the target of its HTLCs. -/
theorem eq_of_member (h : Sound tracked durable target w) (ht : tracked) {k : Hex} {inv : HoldInvoice}
    (hinv : w.holdInvoices.get? k = some inv) {κ : HtlcKey} (hκ : inv.Holds κ) {p : Bytes}
    (htarget : target κ = some p) : k = hex p := by
  obtain ⟨a, ha, -, rfl⟩ := hκ
  have hmember := (h.invoices.live k inv hinv).members ht a ha
  rw [hmember] at htarget
  cases htarget
  exact (HoldInvoices.hex_paymentHash hinv).symm

theorem emit {e : Event} (h : Sound tracked durable target w)
    (hback : ∀ κ, e.GivesBack κ → NotHeld tracked durable κ w)
    (hlog : tracked → ∀ inv, e = .funded inv ∨ e = .invokeCallback inv → CountsHeld w.trace inv) :
    Sound tracked durable target (w.say e) := by
  have hgiven : ∀ {H : HoldInvoices}, H.Without (GivenBack w.trace) →
      (∀ κ, e.GivesBack κ → H.Without (· = κ)) → H.Without (GivenBack (e :: w.trace)) := by
    intro H hold hnew k inv hinv κ hκ hback
    rcases givenBack_cons.mp hback with he | hback
    · exact hnew κ he k inv hinv κ hκ rfl
    · exact hold k inv hinv κ hκ hback
  have hsaved : tracked → durable → (w.say e).Without (GivenBack (e :: w.trace)) := by
    intro ht hd
    refine ⟨hgiven (h.held ht) fun κ he => (hback κ he ht).1, fun d hstores => ?_⟩
    exact hgiven ((h.saved ht hd).saved d hstores) fun κ he => ((hback κ he ht).2 hd).saved d hstores
  refine ⟨h.invoices.say e, fun ht => hgiven (h.held ht) fun κ he => (hback κ he ht).1,
    fun ht => ⟨h.log ht, hlog ht⟩, fun ht v hv => ?_, hsaved, fun ht hd v hv d hdisk => ?_⟩
  · rcases List.mem_cons.mp hv with rfl | hv
    · exact ⟨h.log ht, hlog ht⟩
    · exact h.views ht v hv
  · rcases List.mem_cons.mp hv with rfl | hv
    · exact ((hsaved ht hd).saved d (.inl hdisk)).dropWhile
    · exact h.points ht hd v hv d hdisk

/-- A change of the table that leaves the log and the points at which the process could have ended. -/
theorem of_without {w' : World} (h : Sound tracked durable target w)
    (hinvoices : EveryHold (InvoiceOk tracked target) w') (htrace : w'.trace = w.trace)
    (hviews : w'.views = w.views) (hlive : tracked → w'.holdInvoices.Without (GivenBack w.trace))
    (hsaved : tracked → durable → w'.Without (GivenBack w.trace)) :
    Sound tracked durable target w' := by
  refine ⟨hinvoices, ?_, ?_, ?_, ?_, ?_⟩
  · rw [htrace]
    exact hlive
  · rw [htrace]
    exact h.log
  · rw [hviews]
    exact h.views
  · rw [htrace]
    exact hsaved
  · rw [hviews]
    exact h.points

theorem popHoldInvoice (k : Hex) (h : Sound tracked durable target w) :
    Sound tracked durable target (w.popHoldInvoice k) := by
  have hframe : (w.popHoldInvoice k).trace = w.trace ∧ (w.popHoldInvoice k).views = w.views := by
    unfold World.popHoldInvoice
    split
    · exact ⟨rfl, rfl⟩
    · exact ⟨rfl, rfl⟩
  exact h.of_without (h.invoices.popHoldInvoice InvoiceOk.toStored k) hframe.1 hframe.2
    (fun ht => World.Without.live_popHoldInvoice k (h.held ht))
    fun ht hd => (h.saved ht hd).popHoldInvoice k

theorem setHoldInvoice {invoice : HoldInvoice} (h : Sound tracked durable target w)
    (hok : InvoiceOk tracked target invoice)
    (hheld : tracked → ∀ κ, invoice.Holds κ → ¬ GivenBack w.trace κ) :
    Sound tracked durable target (w.setHoldInvoice invoice) := by
  have hframe : (w.setHoldInvoice invoice).trace = w.trace ∧
      (w.setHoldInvoice invoice).views = w.views := by
    dsimp only [World.setHoldInvoice]
    split
    · exact ⟨rfl, rfl⟩
    · exact ⟨rfl, rfl⟩
  exact h.of_without (h.invoices.setHoldInvoice InvoiceOk.toStored hok) hframe.1 hframe.2
    (fun ht => World.Without.live_setHoldInvoice (h.held ht) (hheld ht))
    fun ht hd => (h.saved ht hd).setHoldInvoice (hheld ht)

theorem mutHoldInvoice {k : Hex} {f : HoldInvoice → HoldInvoice}
    {hf : ∀ inv, (f inv).paymentHash = inv.paymentHash} (h : Sound tracked durable target w)
    (hok : ∀ inv, w.holdInvoices.get? k = some inv → InvoiceOk tracked target (f inv))
    (hheld : tracked → ∀ inv, w.holdInvoices.get? k = some inv → ∀ κ, (f inv).Holds κ →
      inv.Holds κ ∨ ¬ GivenBack w.trace κ) :
    Sound tracked durable target (w.mutHoldInvoice k f hf) := by
  have hlive : tracked → (w.mutHoldInvoice k f hf).holdInvoices.Without (GivenBack w.trace) := ?_
  · exact h.of_without (h.invoices.mutHoldInvoice InvoiceOk.toStored hok) rfl rfl hlive
      fun ht hd => ⟨hlive ht, (h.saved ht hd).saved⟩
  intro ht k' inv hinv κ hκ
  have hget : (w.holdInvoices.modify k f hf).get? k' = some inv := hinv
  rw [HoldInvoices.get?_modify] at hget
  split at hget
  · next hk =>
    obtain ⟨inv', hinv', rfl⟩ := Option.map_eq_some_iff.mp hget
    rcases hheld ht inv' (hk ▸ hinv') κ hκ with hκ | hκ
    · exact h.held ht k' inv' hinv' κ hκ
    · exact hκ
  · exact h.held ht k' inv hget κ hκ

/-- A restart from a view that gave back no HTLC its store has as accepted. -/
theorem restart (env : Env) {view : View} (h : Sound tracked durable target w)
    (hview : ∀ d, view.db.disk = some d → w.StoredHolds d.holdInvoices)
    (hsaid : tracked → LogOk view.said)
    (hdisk : tracked → ∀ d, view.db.disk = some d → d.holdInvoices.Without (GivenBack view.said)) :
    Sound tracked durable target (w.restart env view) := by
  have hinvoices := h.invoices.restart InvoiceOk.toStored env hview
  unfold World.restart at hinvoices ⊢
  split at hinvoices
  · exact h
  · next d hd =>
    have hlive : tracked → d.holdInvoices.Without (GivenBack view.said) := by
      unfold Db.load at hd
      split at hd
      · cases hd
      · exact fun ht => hdisk ht d hd
    refine ⟨hinvoices, hlive, hsaid, fun ht v hv => ?_,
      fun ht _ => ⟨hlive ht, fun d' hstores => ?_⟩, fun ht _ v hv d' hd' => ?_⟩
    · cases List.mem_singleton.mp hv
      exact hsaid ht
    · rcases hstores with hd' | hd'
      · exact hdisk ht d' hd'
      · exact hdisk ht d' hd'
    · cases List.mem_singleton.mp hv
      exact (hdisk ht d' hd').dropWhile

end Sound

theorem World.get?_mut_self {k : Hex} {f : HoldInvoice → HoldInvoice}
    {hf : ∀ inv, (f inv).paymentHash = inv.paymentHash} {inv : HoldInvoice}
    (h : (w.mutHoldInvoice k f hf).holdInvoices.get? k = some inv) :
    ∃ inv', w.holdInvoices.get? k = some inv' ∧ f inv' = inv := by
  have hget : (w.holdInvoices.modify k f hf).get? k = some inv := h
  rw [HoldInvoices.get?_modify, if_pos rfl] at hget
  exact Option.map_eq_some_iff.mp hget

/-- A change of the state of an HTLC to one other than accepted accepts nothing. -/
theorem HoldInvoice.Holds.of_setHtlcState {inv : HoldInvoice} {k κ : HtlcKey} {st : HtlcState}
    (hst : st ≠ .accepted) (h : (inv.setHtlcState k st).Holds κ) : inv.Holds κ ∧ κ ≠ k := by
  obtain ⟨a, ha, hacc, rfl⟩ := h
  obtain ⟨b, hb, rfl⟩ := HoldInvoice.mem_setHtlcState.mp ha
  split at hacc
  · exact absurd hacc hst
  · next hk =>
    rw [if_neg hk]
    exact ⟨⟨b, hb, hacc, rfl⟩, hk⟩

end

/-! ## Answering HTLCs -/

section Functions

variable {tracked durable : Prop} {target : HtlcKey → Option Bytes}

theorem sound_quiet {α : Type} {x : PyM α} (h : ∀ w₀, Keeps (Quiet w₀) x) :
    Keeps (Sound tracked durable target) x :=
  Keeps.of_rel h Quiet.refl fun _ _ hst hs => hs.kept hst.toKept

/-- An event the books say nothing about. -/
structure Event.Silent (e : Event) : Prop where
  givesBack : ∀ κ, ¬ e.GivesBack κ
  funded : ∀ inv, e ≠ .funded inv
  invokeCallback : ∀ inv, e ≠ .invokeCallback inv

theorem Sound.emitSilent {e : Event} {w : World} (he : e.Silent) (h : Sound tracked durable target w) :
    Sound tracked durable target (w.say e) := by
  refine h.emit (fun κ hκ => absurd hκ (he.givesBack κ)) fun _ inv hinv => ?_
  rcases hinv with hinv | hinv
  · exact absurd hinv (he.funded inv)
  · exact absurd hinv (he.invokeCallback inv)

theorem sound_emit {e : Event} (he : e.Silent) : Keeps (Sound tracked durable target) (emit e) :=
  Keeps.modify fun _ hs => hs.emitSilent he

theorem silent_resolve (request : Request) (preimage : Bytes) :
    (Event.answer request (.resolve preimage)).Silent :=
  ⟨fun _ h => h, fun _ h => (nomatch h), fun _ h => (nomatch h)⟩

theorem silent_refused (request : Request) (res : HookResult) : (Event.refused request res).Silent :=
  ⟨fun _ h => h, fun _ h => (nomatch h), fun _ h => (nomatch h)⟩

theorem sound_setResult_resolve (request : Request) (preimage : Bytes) :
    Keeps (Sound tracked durable target) (setResult request (.resolve preimage)) :=
  Keeps.get fun _ => Keeps.ite
    (Keeps.bind (sound_emit (silent_refused _ _)) fun _ => Keeps.throw)
    (sound_emit (silent_resolve _ _))

/-- An HTLC no invoice holds may be given any answer. -/
theorem sound_setResult (request : Request) (res : HookResult) :
    Keeps (fun w => Sound tracked durable target w ∧ NotHeld tracked durable request.htlc.key w)
      (setResult request res) := by
  have hemit : ∀ e : Event, (∀ κ, e.GivesBack κ → κ = request.htlc.key) →
      (∀ inv, e ≠ .funded inv ∧ e ≠ .invokeCallback inv) →
      Keeps (fun w => Sound tracked durable target w ∧ NotHeld tracked durable request.htlc.key w) (emit e) := by
    intro e hback hother
    refine Keeps.modify fun w hw => ⟨hw.1.emit (fun κ he => hback κ he ▸ hw.2) ?_,
      fun ht => ⟨(hw.2 ht).1, fun hd => ((hw.2 ht).2 hd).congr rfl rfl⟩⟩
    intro _ inv hinv
    rcases hinv with hinv | hinv
    · exact absurd hinv (hother inv).1
    · exact absurd hinv (hother inv).2
  refine Keeps.get fun _ => Keeps.ite (Keeps.bind ?_ fun _ => Keeps.throw) ?_
  · exact hemit _ (fun _ h => h.elim) fun inv => ⟨fun h => (by cases h), fun h => (by cases h)⟩
  · refine hemit _ (fun κ h => ?_) fun inv => ⟨fun h => (by cases h), fun h => (by cases h)⟩
    cases res with
    | continue_ => exact h.symm
    | fail failureMessage => exact h.symm
    | resolve paymentKey => exact h.elim

/-- `settle` of one HTLC. -/
theorem sound_settleHtlc (k : Hex) (htlc : Htlc) (preimage : Bytes) :
    Keeps (Sound tracked durable target) (settleHtlc k htlc preimage) := by
  unfold settleHtlc resolveHtlc
  refine Keeps.ite ?_ Keeps.throw
  split
  · exact Keeps.throw
  · refine Keeps.bind (Keeps.modify fun w hw => ?_) fun _ => sound_setResult_resolve _ _
    refine hw.mutHoldInvoice (fun inv hinv => (hw.invoices.live k inv hinv).settle htlc.key) ?_
    intro _ inv _ κ hκ
    exact .inl (hκ.of_setHtlcState (by decide)).1

variable (durable) in
/-- The HTLC of a hook call is cancelled, then failed. -/
theorem sound_cancel {k : Hex} {κ : HtlcKey} {request : Request} (hrequest : request.htlc.key = κ)
    (htarget : tracked → target κ = some k.bytes) (message : String) :
    Triple
      (fun w => Sound tracked durable target w ∧
        (∀ inv, w.holdInvoices.get? k = some inv →
          InvoiceOk tracked target (inv.setHtlcState κ .cancelled)) ∧
        (tracked → durable → ∀ d, w.Stores d → d.holdInvoices.Without (· = κ)))
      (do
        modify (World.mutHoldInvoice k (·.setHtlcState κ .cancelled) fun _ => rfl)
        setResult request (.fail message))
      (fun _ w => Sound tracked durable target w ∧ NotHeld tracked durable κ w)
      (fun _ w => Sound tracked durable target w ∧ NotHeld tracked durable κ w) := by
  subst hrequest
  refine Triple.modifyBind (fun w hw => ?_) (sound_setResult request (.fail message))
  have hsound : Sound tracked durable target
      (w.mutHoldInvoice k (·.setHtlcState request.htlc.key .cancelled) fun _ => rfl) :=
    hw.1.mutHoldInvoice hw.2.1 fun _ inv _ κ hκ => .inl (hκ.of_setHtlcState (by decide)).1
  have hlive : tracked → (w.mutHoldInvoice k (·.setHtlcState request.htlc.key .cancelled)
      fun _ => rfl).holdInvoices.Without (· = request.htlc.key) := by
    rintro ht k' inv hinv _ hκ rfl
    have hk' : k' = k := hsound.eq_of_member ht hinv hκ (htarget ht)
    subst hk'
    obtain ⟨inv', -, rfl⟩ := World.get?_mut_self hinv
    exact (hκ.of_setHtlcState (by decide)).2 rfl
  exact ⟨hsound, fun ht => ⟨hlive ht, fun hd => ⟨hlive ht, hw.2.2 ht hd⟩⟩⟩

/-- The invoice stored under `k` is not funded. -/
def NotFunded (k : Hex) (w : World) : Prop :=
  ∀ inv, w.holdInvoices.get? k = some inv → inv.fundingStatus ≠ .funded

theorem notFunded_setResult (k : Hex) (request : Request) (res : HookResult) :
    Keeps (NotFunded k) (setResult request res) :=
  Keeps.get fun _ => Keeps.ite
    (Keeps.bind (Keeps.modify fun _ h => h) fun _ => Keeps.throw) (Keeps.modify fun _ h => h)

/-- A change that keeps the status of an invoice keeps it from being funded. -/
theorem NotFunded.mutHoldInvoice {k k' : Hex} {w : World} {f : HoldInvoice → HoldInvoice}
    {hf : ∀ inv, (f inv).paymentHash = inv.paymentHash} (h : NotFunded k w)
    (hstatus : ∀ inv, (f inv).fundingStatus = .funded → inv.fundingStatus = .funded) :
    NotFunded k (w.mutHoldInvoice k' f hf) := by
  intro inv hinv hfunded
  have hget : (w.holdInvoices.modify k' f hf).get? k = some inv := hinv
  rw [HoldInvoices.get?_modify] at hget
  split at hget
  · obtain ⟨inv', hinv', rfl⟩ := Option.map_eq_some_iff.mp hget
    exact h inv' hinv' (hstatus inv' hfunded)
  · exact h inv hget hfunded

/-- `cancel_all_htlcs`, for an invoice that is not funded. What the datastore has of it is not looked
at. -/
theorem sound_cancelAllHtlcs {invoice : HoldInvoice} (hok : InvoiceOk tracked target invoice) :
    Keeps (fun w => Sound tracked False target w ∧ NotFunded (hex invoice.paymentHash) w)
      (cancelAllHtlcs invoice) := by
  unfold cancelAllHtlcs
  refine Keeps.bind (Keeps.forM fun htlc hmem => Keeps.ite ?_ Keeps.pure) fun _ => ?_
  · unfold failHtlc resolveHtlc
    refine Keeps.ite ?_ Keeps.throw
    split
    · exact Keeps.throw
    · next request hrequest =>
      have hsound := sound_cancel False (hok.callbacks htlc hmem request hrequest)
        (k := hex invoice.paymentHash) (fun ht => hok.members ht htlc hmem) "400F"
      have hstatus : Keeps (NotFunded (hex invoice.paymentHash)) (do
          modify (World.mutHoldInvoice (hex invoice.paymentHash)
            (·.setHtlcState htlc.key .cancelled) fun _ => rfl)
          setResult request (.fail "400F")) :=
        Keeps.bind (Keeps.modify fun w hw => hw.mutHoldInvoice fun _ h => h) fun _ =>
          notFunded_setResult _ _ _
      refine (hsound.and hstatus).conseq
        (fun w hw => ⟨⟨hw.1, fun inv hinv => ?_, fun _ => False.elim⟩, hw.2⟩)
        (fun _ w hw => ⟨hw.1.1, hw.2⟩) (fun _ w hw => ⟨hw.1.1, hw.2⟩)
      exact (hw.1.invoices.live _ inv hinv).cancel (hw.2 inv hinv) htlc.key
  · refine Keeps.modify fun w hw => ⟨hw.1.mutHoldInvoice (fun inv hinv => ?_) ?_,
      hw.2.mutHoldInvoice fun _ h => by cases h⟩
    · exact (hw.1.invoices.live _ inv hinv).setFundingStatus fun h => by cases h
    · exact fun _ inv _ κ hκ => .inl hκ

/-- `HoldInvoice.settle`. -/
theorem sound_settleInvoice [Deployment] (invoice : HoldInvoice) (preimage : Option Bytes) :
    Keeps (Sound tracked durable target) (settleInvoice invoice preimage) := by
  unfold settleInvoice
  split
  · exact Keeps.throw
  · refine Keeps.bind (keeps_pyAssert _) fun _ => Keeps.bind (Keeps.ite Keeps.pure Keeps.throw)
      fun _ => Keeps.bind (Keeps.forM fun htlc _ => Keeps.ite (sound_settleHtlc _ _ _) Keeps.pure)
      fun _ => Keeps.bind (Keeps.modify fun w hw => ?_) fun _ => sound_emit ?_
    · refine hw.mutHoldInvoice (fun inv hinv => ?_) fun _ inv _ κ hκ => .inl hκ
      exact (hw.invoices.live _ inv hinv).setFundingStatus fun h => by cases h
    · exact ⟨fun _ h => h, fun _ h => (nomatch h), fun _ h => (nomatch h)⟩

/-! ## The tables -/

/-- The same invoices are stored, perhaps in another order, and nothing has been said. -/
structure SameHolds (w w' : World) : Prop where
  holdInvoices : ∀ k, w'.holdInvoices.get? k = w.holdInvoices.get? k
  trace : w'.trace = w.trace

theorem SameHolds.refl (w : World) : SameHolds w w := ⟨fun _ => rfl, rfl⟩

theorem SameHolds.trans {w w' w'' : World} (h : SameHolds w w') (h' : SameHolds w' w'') :
    SameHolds w w'' :=
  ⟨fun k => (h'.holdInvoices k).trans (h.holdInvoices k), h'.trace.trans h.trace⟩

theorem Kept.sameHolds {w w' : World} (h : Kept w w') : SameHolds w w' :=
  ⟨fun _ => by rw [h.holdInvoices], h.trace⟩

/-- An HTLC that no invoice can have. -/
theorem Sound.notHeld_of_target {κ : HtlcKey} {w : World} (h : Sound tracked durable target w)
    (htarget : tracked → target κ = none) : NotHeld tracked durable κ w := by
  have hnone : tracked → ∀ inv, InvoiceOk tracked target inv → ∀ κ', inv.Holds κ' → ¬ κ' = κ := by
    rintro ht inv hok κ' ⟨a, ha, -, rfl⟩ heq
    have hmember := hok.members ht a ha
    rw [heq, htarget ht] at hmember
    cases hmember
  refine fun ht => ⟨fun k inv hinv => hnone ht inv (h.invoices.live k inv hinv), fun _ =>
    ⟨fun k inv hinv => hnone ht inv (h.invoices.live k inv hinv), fun d hd k inv hinv => ?_⟩⟩
  exact hnone ht inv (h.invoices.stored _ (.inl (.inl ⟨d, hd, rfl⟩)) k inv hinv)

theorem NotHeld.kept {κ : HtlcKey} {w w' : World} (h : NotHeld tracked durable κ w) (hk : Kept w w') :
    NotHeld tracked durable κ w' :=
  fun ht => ⟨hk.holdInvoices ▸ (h ht).1, fun hd => ((h ht).2 hd).kept hk⟩

/-- Popping an invoice and storing it again. -/
theorem SameHolds.update {w : World} {k : Hex} {invoice : HoldInvoice}
    (h : w.holdInvoices.get? k = some invoice) :
    SameHolds w ((w.popHoldInvoice k).setHoldInvoice invoice) := by
  have hk : hex invoice.paymentHash = k := HoldInvoices.hex_paymentHash h
  unfold World.popHoldInvoice
  rw [if_pos (by rw [h]; rfl)]
  dsimp only [World.setHoldInvoice]
  rw [HoldInvoices.get?_pop, if_pos hk, if_neg (by simp)]
  refine ⟨fun k' => ?_, rfl⟩
  show ((w.holdInvoices.pop k).set invoice).get? k' = w.holdInvoices.get? k'
  rw [HoldInvoices.get?_set, HoldInvoices.get?_pop, hk]
  by_cases hk' : k' = k
  · rw [if_pos hk', hk', h]
  · rw [if_neg hk', if_neg hk']

theorem same_update (env : Env) (payment_hash : Bytes) (w₀ : World) :
    Keeps (SameHolds w₀) (updateInvoice env payment_hash) := by
  unfold updateInvoice
  refine Keeps.getBind fun w hw => ?_
  split
  · exact Triple.throw fun s hs => hs ▸ hw
  · next invoice hinvoice =>
    refine Triple.modifyBind (R := (· = w.popHoldInvoice (hex payment_hash)))
      (fun s hs => by rw [hs]) ?_
    refine Triple.modifyBind (R := SameHolds w₀) (fun s hs => ?_) ?_
    · rw [hs]
      exact hw.trans (SameHolds.update hinvoice)
    · exact Keeps.of_rel (quiet_dbWrite env) Quiet.refl
        fun s t hst hs => hs.trans hst.toKept.sameHolds

theorem sound_updateInvoice (env : Env) (payment_hash : Bytes) :
    Keeps (Sound tracked durable target) (updateInvoice env payment_hash) := by
  unfold updateInvoice
  refine Keeps.getBind fun w hw => ?_
  split
  · exact Triple.throw fun s hs => hs ▸ hw
  · next invoice hinvoice =>
    refine Triple.modifyBind (R := (· = w.popHoldInvoice (hex payment_hash)))
      (fun s hs => by rw [hs]) ?_
    refine Triple.modifyBind (R := Sound tracked durable target) (fun s hs => ?_)
      (sound_quiet (quiet_dbWrite env))
    subst hs
    refine (hw.popHoldInvoice _).setHoldInvoice (hw.invoices.live _ invoice hinvoice) fun ht => ?_
    have htrace : (w.popHoldInvoice (hex payment_hash)).trace = w.trace := by
      unfold World.popHoldInvoice
      split <;> rfl
    rw [htrace]
    exact hw.held ht _ invoice hinvoice

/-- What is saved is what the invoice holds. -/
theorem notHeld_updateInvoice (env : Env) (payment_hash : Bytes) (κ : HtlcKey) :
    Keeps (NotHeld tracked durable κ) (updateInvoice env payment_hash) := by
  unfold updateInvoice
  refine Keeps.getBind fun w hw => ?_
  split
  · exact Triple.throw fun s hs => hs ▸ hw
  · next invoice hinvoice =>
    refine Triple.modifyBind (R := (· = w.popHoldInvoice (hex payment_hash)))
      (fun s hs => by rw [hs]) ?_
    refine Triple.modifyBind (R := NotHeld tracked durable κ) (fun s hs => ?_) ?_
    · subst hs
      refine fun ht => ⟨?_, fun hd => ?_⟩
      · exact World.Without.live_setHoldInvoice (World.Without.live_popHoldInvoice _ (hw ht).1)
          ((hw ht).1 _ invoice hinvoice)
      · exact (((hw ht).2 hd).popHoldInvoice _).setHoldInvoice ((hw ht).1 _ invoice hinvoice)
    · exact Keeps.of_rel (quiet_dbWrite env) Quiet.refl fun _ _ hst hs => hs.kept hst.toKept

theorem sound_unregister (k : Hex) :
    Keeps (Sound tracked durable target) (unregisterHoldInvoiceCallback k) :=
  Keeps.modify fun _ hs => hs.of_without (hs.invoices.congr rfl rfl fun _ => .inl) rfl rfl hs.held
    fun ht hd => (hs.saved ht hd).congr rfl rfl

theorem sound_register (k : Hex) (callback : HoldInvoiceCallback) :
    Keeps (Sound tracked durable target) (registerHoldInvoiceCallback k callback) :=
  Keeps.modify fun _ hs => hs.of_without (hs.invoices.congr rfl rfl fun _ => .inl) rfl rfl hs.held
    fun ht hd => (hs.saved ht hd).congr rfl rfl

theorem sound_deleteHoldInvoice (env : Env) (k : Hex) (write_db : Bool) :
    Keeps (Sound tracked durable target) (deleteHoldInvoice env k write_db) :=
  Keeps.bind (sound_unregister k) fun _ => Keeps.get fun _ =>
    Keeps.ite (Keeps.bind (Keeps.modify fun _ hs => hs.popHoldInvoice k) fun _ =>
      Keeps.ite (sound_quiet (quiet_dbWrite env)) Keeps.pure) Keeps.pure

/-- A new invoice has no HTLCs. -/
theorem sound_b11invoiceFromHash [Deployment] (env : Env) (payment_hash : Bytes) (amount_msat : Int)
    (message : String) (expiry : Nat) :
    Keeps (Sound tracked durable target)
      (b11invoiceFromHash env payment_hash amount_msat message expiry) := by
  unfold b11invoiceFromHash
  refine Keeps.bind (keeps_pyAssert _) fun _ =>
    Keeps.bind (Keeps.ite Keeps.pure Keeps.throw) fun _ =>
    Keeps.bind (keeps_orRaise _ _) fun _ =>
    Keeps.bind (Keeps.ite Keeps.throw Keeps.pure) fun _ =>
    Keeps.bind (keeps_orRaise _ _) fun _ =>
    Keeps.bind (Keeps.bind (Keeps.modify fun w hw => ?_) fun _ => sound_quiet (quiet_dbWrite env))
      fun _ => Keeps.pure
  refine hw.setHoldInvoice (InvoiceOk.fresh (by simp [HoldInvoice.new]) rfl) ?_
  rintro - κ ⟨a, ha, -⟩
  exact absurd ha (HtlcSet.notMem_empty a)

theorem sound_bundlePayments (env : Env) (swap_invoice prepay_invoice : Bytes) :
    Keeps (Sound tracked durable target) (bundlePayments env swap_invoice prepay_invoice) := by
  unfold bundlePayments
  refine Keeps.getBind fun w hw => ?_
  split
  · exact Triple.throw fun s hs => hs ▸ hw
  · next invoice hinvoice =>
    refine Triple.modifyBind (R := fun s => Sound tracked durable target s ∧ s.trace = w.trace)
      (fun s hs => ?_) ?_
    · subst hs
      refine ⟨hw.popHoldInvoice _, ?_⟩
      unfold World.popHoldInvoice
      split <;> rfl
    · refine triple_raiseIf (fun _ s hs => hs.1) fun _ => ?_
      unfold saveHoldInvoice
      refine Triple.modifyBind (R := Sound tracked durable target) (fun s hs => ?_)
        (sound_quiet (quiet_dbWrite env))
      have hok := hw.invoices.live _ invoice hinvoice
      refine hs.1.setHoldInvoice ⟨hok.funded, hok.callbacks, hok.members⟩ fun ht => ?_
      rw [hs.2]
      exact hw.held ht _ invoice hinvoice

end Functions

end SubswapProvider
