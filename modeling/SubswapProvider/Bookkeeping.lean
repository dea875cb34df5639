import SubswapProvider.Books

/-!
# Every step keeps the books

The HTLC hook, the expiry pass, the callback pass and the swap manager keep `Sound`, and so does
every step of the plugin (`sound_step`). What is stored is in order after any run
(`Reachable.sound`); what keeps accepted HTLCs held, in memory and in the datastore, is said of each
kind of step by `StepKeeps`.
-/

namespace SubswapProvider

open Deployment Effect

section

variable {tracked durable : Prop} {target : HtlcKey → Option Bytes}

/-! ## The HTLC hook -/

/-- The invoice stays stored and the store untouched. -/
def Stays (k : Hex) (db : Db) (w : World) : Prop := (w.holdInvoices.get? k).isSome ∧ w.db = db

theorem Stays.mutHoldInvoice {k : Hex} {db : Db} {w : World} {f : HoldInvoice → HoldInvoice}
    {hf : ∀ inv, (f inv).paymentHash = inv.paymentHash} (h : Stays k db w) :
    Stays k db (w.mutHoldInvoice k f hf) := by
  refine ⟨?_, h.2⟩
  show ((w.holdInvoices.modify k f hf).get? k).isSome
  rw [HoldInvoices.get?_modify, if_pos rfl, Option.isSome_map]
  exact h.1

theorem stays_setResult (k : Hex) (db : Db) (request : Request) (res : HookResult) :
    Keeps (Stays k db) (setResult request res) :=
  Keeps.get fun _ => Keeps.ite
    (Keeps.bind (Keeps.modify fun _ h => h) fun _ => Keeps.throw) (Keeps.modify fun _ h => h)

theorem World.mut_get?_self {w : World} {k : Hex} {f : HoldInvoice → HoldInvoice}
    {hf : ∀ inv, (f inv).paymentHash = inv.paymentHash} {inv : HoldInvoice}
    (h : w.holdInvoices.get? k = some inv) :
    (w.mutHoldInvoice k f hf).holdInvoices.get? k = some (f inv) := by
  show (w.holdInvoices.modify k f hf).get? k = _
  rw [HoldInvoices.get?_modify, if_pos rfl, h]
  rfl

variable (durable) in
/-- `handle_htlc`. If it returns `True`, then the HTLC has been turned down or passed every check;
if it raises, the HTLC is not held. -/
theorem sound_handleHtlc [Deployment] (env : Env) {invoice : HoldInvoice}
    (payment_secret : Option Bytes) {request : Request} (db : Db)
    (htarget : tracked → target request.htlc.key = some invoice.paymentHash)
    (hcheck : tracked → invoice.findHtlc request.htlc.key = none →
      ∃ b, checkHtlc env invoice payment_secret request.htlc = .ok b)
    (hunknown : tracked → invoice.findHtlc request.htlc.key = none →
      ∀ d, db.disk = some d ∨ db.queued = some d → d.holdInvoices.Without (· = request.htlc.key)) :
    Triple
      (fun w => Sound tracked durable target w ∧
        w.holdInvoices.get? (hex invoice.paymentHash) = some invoice ∧
        (tracked → ¬ GivenBack w.trace request.htlc.key) ∧ w.db = db)
      (handleHtlc env invoice payment_secret request)
      (fun changed w => Sound tracked durable target w ∧ Stays (hex invoice.paymentHash) db w ∧
        (changed = true → NotHeld tracked durable request.htlc.key w ∨
          (invoice.findHtlc request.htlc.key = none ∧
            checkHtlc env invoice payment_secret request.htlc = .ok true)))
      (fun _ w => Sound tracked durable target w ∧ NotHeld tracked durable request.htlc.key w) := by
  dsimp only [handleHtlc]
  rw [Htlc.key_fromClnDict]
  cases hfind : invoice.findHtlc request.htlc.key with
  | some existing =>
    have hkey : existing.key = request.htlc.key := (HtlcSet.mem_of_find? hfind).2
    dsimp only
    rw [hkey]
    refine Triple.modifyBind (R := fun w => Sound tracked durable target w ∧
      Stays (hex invoice.paymentHash) db w) (fun w hw => ?_)
      (Triple.pure fun w hw => ⟨hw.1, hw.2, fun h => by cases h⟩)
    obtain ⟨hsound, hget, -, hdb⟩ := hw
    refine ⟨hsound.mutHoldInvoice (fun inv hinv => (hsound.invoices.live _ inv hinv).replay) ?_,
      Stays.mutHoldInvoice ⟨by rw [hget]; rfl, hdb⟩⟩
    rintro - inv - κ ⟨a, ha, hacc, rfl⟩
    obtain ⟨b, hb, rfl⟩ := HoldInvoice.mem_setHtlcCallback.mp ha
    refine .inl ⟨b, hb, ?_, ?_⟩
    · split at hacc <;> exact hacc
    · split <;> rfl
  | none =>
    dsimp only
    have hfresh : ∀ w, Sound tracked durable target w →
        w.holdInvoices.get? (hex invoice.paymentHash) = some invoice →
        (tracked → ¬ GivenBack w.trace request.htlc.key) →
        Sound tracked durable target (w.mutHoldInvoice (hex invoice.paymentHash)
          (·.addHtlc (Htlc.fromClnDict request.htlc request env.now)) fun _ => rfl) := by
      intro w hsound hget hback
      have hsame : ∀ inv, w.holdInvoices.get? (hex invoice.paymentHash) = some inv →
          inv = invoice := by
        intro inv hinv
        rw [hget] at hinv
        exact (Option.some.inj hinv).symm
      refine hsound.mutHoldInvoice (fun inv hinv => ?_) fun ht inv hinv κ hκ => ?_
      · rw [hsame inv hinv]
        exact (hsound.invoices.live _ invoice hget).add hfind htarget
      · obtain rfl := hsame inv hinv
        obtain ⟨a, ha, hacc, rfl⟩ := hκ
        rcases (HoldInvoice.mem_addHtlc hfind).mp ha with ha | rfl
        · exact .inl ⟨a, ha, hacc, rfl⟩
        · exact .inr (hback ht)
    refine Triple.modifyBind (R := fun w => Sound tracked durable target w ∧
      (∃ w₀, Sound tracked durable target w₀ ∧
        w₀.holdInvoices.get? (hex invoice.paymentHash) = some invoice) ∧
      w.holdInvoices.get? (hex invoice.paymentHash)
        = some (invoice.addHtlc (Htlc.fromClnDict request.htlc request env.now)) ∧ w.db = db)
      (fun w hw => ⟨hfresh w hw.1 hw.2.1 hw.2.2.1, ⟨w, hw.1, hw.2.1⟩, World.mut_get?_self hw.2.1,
        hw.2.2.2⟩) ?_
    cases hresult : checkHtlc env invoice payment_secret request.htlc with
    | error e =>
      refine Triple.throw fun w hw => ⟨hw.1, fun ht => ?_⟩
      obtain ⟨b, hb⟩ := hcheck ht hfind
      rw [hresult] at hb
      cases hb
    | ok accepted =>
      cases accepted with
      | false =>
        have hcancel := (sound_cancel durable (k := hex invoice.paymentHash) rfl htarget
          "400F").and
          (show Keeps (Stays (hex invoice.paymentHash) db) _ from
            Keeps.bind (Keeps.modify fun w hw => hw.mutHoldInvoice) fun _ =>
              stays_setResult _ _ request (.fail "400F"))
        refine Triple.bind (R := fun _ w => (Sound tracked durable target w ∧
          NotHeld tracked durable request.htlc.key w) ∧ Stays (hex invoice.paymentHash) db w) ?_
          fun _ => Triple.pure fun w hw => ⟨hw.1.1, hw.2, fun _ => .inl hw.1.2⟩
        refine hcancel.conseq (fun w hw => ?_) (fun _ _ h => h) fun _ _ h => h.1
        obtain ⟨hsound, ⟨w₀, hsound₀, hget₀⟩, hget, hdb⟩ := hw
        have hstores : tracked → durable → ∀ d, w.Stores d →
            d.holdInvoices.Without (· = request.htlc.key) := by
          subst hdb
          exact fun ht _ d hd => hunknown ht hfind d hd
        refine ⟨⟨hsound, fun inv hinv => ?_, hstores⟩, by rw [hget]; rfl, hdb⟩
        rw [hget] at hinv
        cases hinv
        exact (hsound₀.invoices.live _ invoice hget₀).reject hfind htarget
      | true =>
        dsimp only
        split
        · next hfull =>
          refine Triple.modifyBind (R := fun w => Sound tracked durable target w ∧
            w.holdInvoices.get? (hex invoice.paymentHash) = some ((invoice.addHtlc
              (Htlc.fromClnDict request.htlc request env.now)).setFundingStatus .funded) ∧
            w.db = db) (fun w hw => ?_) ?_
          · obtain ⟨hsound, -, hget, hdb⟩ := hw
            refine ⟨hsound.mutHoldInvoice (fun inv hinv => ?_) fun _ _ _ κ hκ => .inl hκ,
              World.mut_get?_self hget, hdb⟩
            refine (hsound.invoices.live _ inv hinv).setFundingStatus fun _ => ?_
            rw [hget] at hinv
            cases hinv
            exact hfull
          · refine Triple.modifyBind (R := fun w => Sound tracked durable target w ∧
              Stays (hex invoice.paymentHash) db w) (fun w hw => ?_)
              (Triple.pure fun w hw => ⟨hw.1, hw.2, fun _ => .inr ⟨rfl, rfl⟩⟩)
            obtain ⟨hsound, hget, hdb⟩ := hw
            refine ⟨hsound.emit (fun _ h => h.elim) fun ht inv hinv => ?_,
              by rw [World.say_holdInvoices, hget]; rfl, hdb⟩
            rcases hinv with hinv | hinv
            · cases hinv
              exact ⟨hfull, hsound.held ht _ _ hget⟩
            · cases hinv
        · refine Triple.pure fun w hw => ⟨hw.1, ⟨by rw [hw.2.2.1]; rfl, hw.2.2.2⟩,
            fun _ => .inr ⟨rfl, rfl⟩⟩

/-- A write that goes through. -/
theorem dbWrite_returns {env : Env} {n : Nat} (h : env.writeFails n = false) :
    Triple (fun w => w.db.calls = n) (dbWrite env) (fun _ _ => True) (fun _ _ => False) := by
  unfold dbWrite
  refine Triple.getBind fun w hw => ?_
  dsimp only
  rw [hw, h]
  refine Triple.modifyBind (R := fun _ => True) (fun _ _ => trivial) ?_
  simp only [Bool.false_eq_true, if_false]
  split
  · split
    · exact fun _ _ => trivial
    · exact fun _ _ => trivial
  · split
    · exact fun _ _ => trivial
    · exact fun _ _ => trivial

/-- `update_invoice` of a stored invoice raises only when its write fails. -/
theorem updateInvoice_returns {env : Env} {payment_hash : Bytes} {db : Db}
    (h : env.writeFails db.calls = false) :
    Triple (Stays (hex payment_hash) db) (updateInvoice env payment_hash)
      (fun _ _ => True) (fun _ _ => False) := by
  unfold updateInvoice
  refine Triple.getBind fun w hw => ?_
  split
  · next hnone =>
    have hsome := hw.1
    unfold World.getHoldInvoice at hnone
    rw [hnone] at hsome
    cases hsome
  · next invoice hinvoice =>
    refine Triple.modifyBind (R := fun s => s.db.calls = db.calls) (fun s hs => ?_) ?_
    · subst hs
      unfold World.popHoldInvoice
      have hcalls : s.db.calls = db.calls := congrArg Db.calls hw.2
      split
      · exact hcalls
      · exact hcalls
    · refine Triple.modifyBind (R := fun s => s.db.calls = db.calls) (fun s hs => ?_)
        (dbWrite_returns h)
      dsimp only [World.setHoldInvoice]
      split
      · exact hs
      · exact hs

/-- What lightningd and the datastore have to do for a hook call: the HTLC is described as ever and
has not been given back; if it is new and passes, it can be saved; and the datastore does not have as
accepted an HTLC that the process knows nothing of. -/
structure HookOk [Deployment] (target : HtlcKey → Option Bytes) (env : Env) (forward : Bool)
    (payment_secret : Option Bytes) (request : Request) (w : World) : Prop where
  target : target request.htlc.key = if forward then none else some request.htlc.paymentHash
  fresh : ¬ GivenBack w.trace request.htlc.key
  saved : forward = false → ∀ invoice, w.getHoldInvoice request.htlc.paymentHash = some invoice →
    invoice.findHtlc request.htlc.key = none →
    ∃ accepted, checkHtlc env invoice payment_secret request.htlc = .ok accepted ∧
      (accepted = true → env.writeFails w.db.calls = false)
  unknown : forward = false → (∀ invoice, w.getHoldInvoice request.htlc.paymentHash = some invoice →
    invoice.findHtlc request.htlc.key = none) →
    ∀ d, w.Stores d → d.holdInvoices.Without (· = request.htlc.key)

/-- `plugin_htlc_accepted_hook`. -/
theorem sound_pluginHtlcAcceptedHook [Deployment] {env : Env} {forward : Bool}
    {payment_secret : Option Bytes} {request : Request} {w : World}
    (hok : tracked → HookOk target env forward payment_secret request w) :
    Triple (fun s => s = w ∧ Sound tracked durable target s)
      (pluginHtlcAcceptedHook env forward payment_secret request)
      (fun _ => Sound tracked durable target) (fun _ => Sound tracked durable target) := by
  -- an HTLC that no invoice can have may be passed on
  have hcontinue : ∀ r : Request, Triple
      (fun s => Sound tracked durable target s ∧ NotHeld tracked durable r.htlc.key s)
      (setResult r .continue_) (fun _ => Sound tracked durable target) (fun _ => Sound tracked durable target) :=
    fun r => (sound_setResult r .continue_).conseq (fun _ h => h) (fun _ _ h => h.1)
      fun _ _ h => h.1
  unfold pluginHtlcAcceptedHook
  cases hforward : forward with
  | true =>
    rw [if_pos rfl]
    refine (hcontinue request).pre fun s hs => ⟨hs.2, hs.2.notHeld_of_target fun ht => ?_⟩
    rw [(hok ht).target, hforward]
    rfl
  | false =>
    rw [if_neg (by simp)]
    refine Triple.getBind fun s hs => ?_
    obtain ⟨rfl, hsound⟩ := hs
    have htarget : tracked → target request.htlc.key = some request.htlc.paymentHash := by
      intro ht
      rw [(hok ht).target, hforward]
      rfl
    split
    · next hnone =>
      refine (hcontinue request).pre fun s' hs' => ?_
      subst hs'
      have hlive : tracked → s'.holdInvoices.Without (· = request.htlc.key) := by
        rintro ht k inv hinv _ hκ rfl
        rw [hsound.eq_of_member ht hinv hκ (htarget ht)] at hinv
        unfold World.getHoldInvoice at hnone
        rw [hnone] at hinv
        cases hinv
      refine ⟨hsound, fun ht => ⟨hlive ht, fun _ => ⟨hlive ht, (hok ht).unknown hforward ?_⟩⟩⟩
      intro invoice hinvoice
      rw [hnone] at hinvoice
      cases hinvoice
    · next invoice hinvoice =>
      have hhash : invoice.paymentHash = request.htlc.paymentHash :=
        hex_inj.mp (HoldInvoices.hex_paymentHash hinvoice)
      have hhandle := sound_handleHtlc durable env payment_secret s.db
        (fun ht => (htarget ht).trans (congrArg some hhash.symm)) fun ht hnew => by
          obtain ⟨b, hb, -⟩ := (hok ht).saved hforward invoice hinvoice hnew
          exact ⟨b, hb⟩
      have hhandle := hhandle fun ht hnew => (hok ht).unknown hforward fun invoice' hinvoice' => by
        rw [hinvoice] at hinvoice'
        cases hinvoice'
        exact hnew
      refine Triple.tryCatch (R := fun _ s' => Sound tracked durable target s' ∧
        NotHeld tracked durable request.htlc.key s') ?_ fun _ => hcontinue request
      refine Triple.bind (hhandle.pre fun s' hs' => ?_) fun changed => ?_
      · subst hs'
        exact ⟨hsound, by rw [hhash]; exact hinvoice, fun ht => (hok ht).fresh, rfl⟩
      · split
        · next hchanged =>
          have hupdate : Keeps (fun s' => Sound tracked durable target s' ∧
              NotHeld tracked durable request.htlc.key s') (updateInvoice env invoice.paymentHash) :=
            (sound_updateInvoice env _).and (notHeld_updateInvoice env _ _)
          intro s' hs'
          rcases hs'.2.2 hchanged with hnot | ⟨hnew, hpass⟩
          · exact hupdate.conseq (fun _ h => h) (fun _ _ h => h.1) (fun _ _ h => h) s'
              ⟨hs'.1, hnot⟩
          · by_cases ht : tracked
            · obtain ⟨b, hb, hwrites⟩ := (hok ht).saved hforward invoice hinvoice hnew
              rw [hpass] at hb
              cases hb
              exact (((sound_updateInvoice env _).and
                (updateInvoice_returns (hwrites rfl))).conseq (fun _ h => h) (fun _ _ h => h.1)
                fun _ _ h => h.2.elim) s' ⟨hs'.1, hs'.2.1⟩
            · exact hupdate.conseq (fun _ h => h) (fun _ _ h => h.1) (fun _ _ h => h) s'
                ⟨hs'.1, fun h => absurd h ht⟩
        · exact Triple.pure fun s' hs' => hs'.1

/-! ## The expiry pass -/

/-- The expiry pass keeps the books of the process. What is saved by it is another matter. -/
theorem sound_checkInvoiceExpiry (env : Env) (k : Hex) {w : World}
    (hw : Sound tracked False target w) :
    Triple (· = w) (checkInvoiceExpiry env (w.holdInvoices.get? k))
      (fun _ => Sound tracked False target) (fun _ => Sound tracked False target) := by
  unfold checkInvoiceExpiry
  split
  · exact Triple.pure fun s hs => hs ▸ hw
  · next invoice hinvoice =>
    split
    · next hexpired =>
      have hk : hex invoice.paymentHash = k := HoldInvoices.hex_paymentHash hinvoice
      have hcancel := sound_cancelAllHtlcs (hw.invoices.live k invoice hinvoice)
      refine Triple.bind (hcancel.conseq (fun s hs => ?_) (fun _ _ h => h.1) fun _ _ h => h.1)
        fun _ => ?_
      · subst hs
        refine ⟨hw, fun inv hinv => ?_⟩
        rw [hk, hinvoice] at hinv
        cases hinv
        exact hexpired.2.1
      · exact Keeps.get fun _ => Keeps.bind (Keeps.ite Keeps.throw Keeps.pure) fun _ =>
          Keeps.bind (sound_deleteHoldInvoice env _ true) fun _ => Keeps.pure
    · exact Triple.pure fun s hs => hs ▸ hw

theorem sound_monitorExpiries (env : Env) :
    Keeps (Sound tracked False target) (monitorExpiries env) := by
  unfold monitorExpiries
  refine Keeps.get fun _ => Keeps.tryCatch (Keeps.forM fun k _ => Keeps.getBind fun w hw => ?_)
    fun _ => Keeps.pure
  refine Triple.bind (sound_checkInvoiceExpiry env k hw) fun _ => ?_
  exact Keeps.ite Keeps.throw Keeps.pure

/-! ## The callback pass -/

/-- The invoice of the payment hash is fully funded. -/
def FullAt (payment_hash : Bytes) (w : World) : Prop :=
  ∃ inv, w.getHoldInvoice payment_hash = some inv ∧ inv.isFullyFunded = true

theorem FullAt.mutHoldInvoice {payment_hash : Bytes} {k : Hex} {w : World}
    {f : HoldInvoice → HoldInvoice} {hf : ∀ inv, (f inv).paymentHash = inv.paymentHash}
    (h : FullAt payment_hash w)
    (hfull : ∀ inv, inv.isFullyFunded = true → (f inv).isFullyFunded = true) :
    FullAt payment_hash (w.mutHoldInvoice k f hf) := by
  obtain ⟨inv, hinv, hinvfull⟩ := h
  unfold FullAt
  show ∃ inv, (w.holdInvoices.modify k f hf).get? (hex payment_hash) = some inv ∧ _
  rw [HoldInvoices.get?_modify]
  unfold World.getHoldInvoice at hinv
  rw [hinv]
  split
  · exact ⟨f inv, rfl, hfull inv hinvfull⟩
  · exact ⟨inv, rfl, hinvfull⟩

theorem full_setResult (payment_hash : Bytes) (request : Request) (res : HookResult) :
    Keeps (FullAt payment_hash) (setResult request res) :=
  Keeps.get fun _ => Keeps.ite
    (Keeps.bind (Keeps.modify fun _ h => h) fun _ => Keeps.throw) (Keeps.modify fun _ h => h)

/-- Settling an invoice leaves every invoice as funded as it was. -/
theorem full_settleInvoice [Deployment] (payment_hash : Bytes) (invoice : HoldInvoice)
    (preimage : Option Bytes) :
    Keeps (FullAt payment_hash) (settleInvoice invoice preimage) := by
  unfold settleInvoice
  split
  · exact Keeps.throw
  · refine Keeps.bind (keeps_pyAssert _) fun _ => Keeps.bind (Keeps.ite Keeps.pure Keeps.throw)
      fun _ => Keeps.bind (Keeps.forM fun htlc _ => Keeps.ite ?_ Keeps.pure) fun _ =>
      Keeps.bind (Keeps.modify fun w hw => hw.mutHoldInvoice fun _ h => h) fun _ =>
      Keeps.modify fun _ h => h
    unfold settleHtlc resolveHtlc
    refine Keeps.ite ?_ Keeps.throw
    split
    · exact Keeps.throw
    · refine Keeps.bind (Keeps.modify fun w hw => hw.mutHoldInvoice fun inv h => ?_) fun _ =>
        full_setResult _ _ _
      refine HoldInvoice.isFullyFunded_mono h rfl ?_
      apply HtlcSet.msat_le_modify
      · exact fun _ => rfl
      · exact fun _ _ => rfl

theorem full_updateInvoice (payment_hash : Bytes) (env : Env) (payment_hash' : Bytes) :
    Keeps (FullAt payment_hash) (updateInvoice env payment_hash') :=
  Keeps.of_rel (same_update env payment_hash') SameHolds.refl fun s t hst hs => by
    obtain ⟨inv, hinv, hfull⟩ := hs
    exact ⟨inv, (hst.holdInvoices _).trans hinv, hfull⟩

theorem sound_invokeCallback {callback : Bytes → PyM Unit}
    (hcallback : ∀ h, Keeps (Sound tracked durable target) (callback h)) (invoice : HoldInvoice) :
    Triple (fun w => Sound tracked durable target w ∧ FullAt invoice.paymentHash w)
      (invokeCallback callback invoice)
      (fun _ => Sound tracked durable target) (fun _ => Sound tracked durable target) := by
  unfold invokeCallback
  refine Triple.getBind fun w hw => ?_
  obtain ⟨hsound, inv, hinv, hfull⟩ := hw
  refine Triple.modifyBind (R := Sound tracked durable target) (fun s hs => ?_) ?_
  · subst hs
    refine hsound.emit (fun _ h => h.elim) fun ht inv' hinv' => ?_
    rcases hinv' with hinv' | hinv'
    · cases hinv'
    · rw [hinv] at hinv'
      cases hinv'
      exact ⟨hfull, hsound.held ht _ inv hinv⟩
  · exact Keeps.bind (hcallback _) fun _ => sound_unregister _

/-- The loop body of `callback_handler`. -/
theorem sound_handleCallback [Deployment] (env : Env) (k : Hex) {callback : Bytes → PyM Unit}
    (hcallback : ∀ h, Keeps (Sound tracked durable target) (callback h)) :
    Keeps (Sound tracked durable target) (handleCallback env k callback) := by
  unfold handleCallback
  refine Keeps.getBind fun w hw => ?_
  have hstay : ∀ s, s = w → Sound tracked durable target s := fun s hs => hs ▸ hw
  split
  · split
    · exact (sound_unregister k).pre hstay
    · exact Triple.throw hstay
  · next invoice hinvoice =>
    have hk : hex invoice.paymentHash = k := HoldInvoices.hex_paymentHash hinvoice
    split
    · next hfunded =>
      have hfull : FullAt invoice.paymentHash w :=
        ⟨invoice, by rw [← hinvoice, ← hk]; rfl,
          (hw.invoices.live k invoice hinvoice).funded hfunded⟩
      have hpre : ∀ s, s = w → Sound tracked durable target s ∧ FullAt invoice.paymentHash s :=
        fun s hs => hs ▸ ⟨hw, hfull⟩
      split
      · exact (sound_invokeCallback hcallback invoice).pre hpre
      · split
        · exact Triple.throw hstay
        · next prepay_invoice _ =>
          split
          · refine Triple.pre (R := fun s => Sound tracked durable target s ∧
              FullAt invoice.paymentHash s) ?_ hpre
            have hkeeps : ∀ preimage, Keeps (fun s => Sound tracked durable target s ∧
                FullAt invoice.paymentHash s) (settleInvoice prepay_invoice preimage) :=
              fun preimage => (sound_settleInvoice _ _).and (full_settleInvoice _ _ _)
            have hupdate : Keeps (fun s => Sound tracked durable target s ∧ FullAt invoice.paymentHash s)
                (updateInvoice env prepay_invoice.paymentHash) :=
              (sound_updateInvoice env _).and (full_updateInvoice _ env _)
            exact Triple.bind ((keeps_getPreimage _).conseq (fun _ h => h) (fun _ _ h => h)
              fun _ _ h => h.1) fun preimage =>
              Triple.bind ((hkeeps preimage).conseq (fun _ h => h) (fun _ _ h => h)
                fun _ _ h => h.1) fun _ =>
              Triple.bind (hupdate.conseq (fun _ h => h) (fun _ _ h => h) fun _ _ h => h.1)
                fun _ => sound_invokeCallback hcallback invoice
          · exact Triple.pure hstay
    · exact Triple.pure hstay

theorem sound_callbackHandler [Deployment] (env : Env)
    {call : HoldInvoiceCallback → Bytes → PyM Unit}
    (hcall : ∀ c h, Keeps (Sound tracked durable target) (call c h)) :
    Keeps (Sound tracked durable target) (callbackHandler env call) :=
  Keeps.get fun _ => Keeps.tryCatch
    (Keeps.forM fun item _ => sound_handleCallback env item.1 (hcall item.2)) fun _ => Keeps.pure

/-! ## The swap manager -/

theorem sound_modify {f : World → World} (hf : ∀ w, Kept w (f w)) :
    Keeps (Sound tracked durable target) (modify f : PyM PUnit) :=
  Keeps.modify fun w hw => hw.kept (hf w)

section Swaps

variable [Deployment] (env : Env)

omit [Deployment] in
theorem sound_failSwap (ref : SwapRef) : Keeps (Sound tracked durable target) (failSwap env ref) :=
  sound_quiet fun w₀ => quiet_failSwap env w₀ ref

omit [Deployment] in
theorem sound_createFundingTx (ref : SwapRef) :
    Keeps (Sound tracked durable target) (createFundingTx env ref) := by
  unfold createFundingTx
  refine Keeps.get fun w => Keeps.bind (sound_emit ?_) fun _ =>
    Keeps.bind (keeps_orRaise _ _) fun _ => keeps_createTransaction _ _
  exact ⟨fun _ h => h, fun _ h => (nomatch h), fun _ h => (nomatch h)⟩

omit [Deployment] in
theorem sound_broadcastFundingTx (ref : SwapRef) (tx : FundingTx) :
    Keeps (Sound tracked durable target) (broadcastFundingTx env ref tx) := by
  refine Keeps.bind (sound_modify fun w => Kept.assign ref _ w) fun _ => Keeps.get fun _ =>
    Keeps.bind (sound_emit ?_) fun _ => Keeps.ite Keeps.pure Keeps.throw
  exact ⟨fun _ h => h, fun _ h => (nomatch h), fun _ h => (nomatch h)⟩

omit [Deployment] in
theorem sound_callOf (c : HoldInvoiceCallback) (payment_hash : Bytes) :
    Keeps (Sound tracked durable target) (callOf env c payment_hash) := by
  cases c
  unfold callOf holdInvoiceCallback
  refine Keeps.get fun w => ?_
  split
  · exact Keeps.pure
  · exact Keeps.ite (Keeps.bind (sound_createFundingTx env _) fun tx =>
      Keeps.tryCatch (sound_broadcastFundingTx env _ tx) fun _ => sound_failSwap env _) Keeps.pure

omit [Deployment] in
theorem sound_addOrReindexSwap (ref : SwapRef) :
    Keeps (Sound tracked durable target) (addOrReindexSwap ref) :=
  Keeps.get fun _ => Keeps.ite Keeps.pure (sound_modify fun w => Kept.setSwap _ ref w)

theorem sound_createNormalSwap (lightning_amount_sat : Int) (payment_hash their_pubkey : Bytes) :
    Keeps (Sound tracked durable target)
      (createNormalSwap env lightning_amount_sat payment_hash their_pubkey) := by
  unfold createNormalSwap
  refine Keeps.bind (keeps_pyAssert _) fun _ => Keeps.bind (keeps_orRaise _ _) fun height =>
    Keeps.bind ?_ fun onchain => Keeps.bind ?_ fun created =>
    Keeps.bind (sound_register _ _) fun _ => Keeps.pure
  · unfold getRecvAmount
    refine Keeps.get fun w => ?_
    split
    · exact Keeps.throw
    · exact Keeps.pure
  · unfold addNormalSwap
    exact Keeps.bind (sound_b11invoiceFromHash env _ _ _ _) fun _ =>
      Keeps.bind (sound_quiet fun w₀ => quiet_createPaymentInfo env w₀) fun _ =>
      Keeps.bind (sound_b11invoiceFromHash env _ _ _ _) fun _ =>
      Keeps.bind (sound_bundlePayments env _ _) fun _ =>
      Keeps.bind (keeps_orRaise _ _) fun _ =>
      Keeps.get fun _ =>
      Keeps.bind (sound_modify fun w => Kept.allocSwap _ w) fun _ =>
      Keeps.bind (sound_addOrReindexSwap _) fun _ =>
      Keeps.bind (sound_quiet fun w₀ => quiet_registerAddress env w₀ _) fun _ =>
      Keeps.bind (sound_quiet fun w₀ => quiet_addLnwatcherCallback w₀ _) fun _ => Keeps.pure

theorem sound_createReverseSwap (lightning_amount_sat : Int) (their_pubkey : Bytes) :
    Keeps (Sound tracked durable target) (createReverseSwap env lightning_amount_sat their_pubkey) := by
  unfold createReverseSwap
  refine Keeps.bind (keeps_orRaise _ _) fun height => Keeps.bind ?_ fun onchain => ?_
  · unfold getSendAmount
    refine Keeps.get fun w => Keeps.ite Keeps.pure ?_
    split
    · exact Keeps.throw
    · exact Keeps.pure
  · unfold addReverseSwap
    exact Keeps.bind (keeps_orRaise _ _) fun _ =>
      Keeps.bind (sound_quiet fun w₀ => quiet_registerAddress env w₀ _) fun _ =>
      Keeps.get fun _ =>
      Keeps.bind (sound_modify fun w => Kept.allocSwap _ w) fun _ =>
      Keeps.bind (sound_addOrReindexSwap _) fun _ =>
      Keeps.bind (sound_quiet fun w₀ => quiet_addLnwatcherCallback w₀ _) fun _ => Keeps.pure

theorem sound_handleRequest (request : ClientRequest) :
    Keeps (Sound tracked durable target) (handleRequest env request) := by
  cases request with
  | createswap type pairId invoiceAmount preimageHash claimPublicKey =>
    unfold handleRequest serverCreateSwap
    exact Keeps.bind (keeps_pyAssert _) fun _ => Keeps.ite
      (Keeps.bind (keeps_pyAssert _) fun _ => Keeps.bind (keeps_pyAssert _) fun _ =>
        Keeps.ite Keeps.pure (Keeps.bind (keeps_orRaise _ _) fun _ => Keeps.ite Keeps.pure
          (Keeps.bind (sound_createNormalSwap env _ _ _) fun _ => Keeps.pure)))
      Keeps.pure
  | createnormalswap invoiceAmount refundPublicKey =>
    unfold handleRequest serverCreateNormalSwap
    exact Keeps.bind (keeps_pyAssert _) fun _ => Keeps.ite Keeps.pure
      (Keeps.bind (sound_createReverseSwap env _ _) fun _ => Keeps.pure)
  | addswapinvoice invoice => exact sound_quiet fun w₀ => quiet_serverAddSwapInvoice env w₀ invoice
  | unknown method => exact Keeps.pure

/-! ## The chain callback -/

theorem sound_finishNormalSwap (ref : SwapRef) :
    Keeps (Sound tracked durable target) (finishNormalSwap env ref) := by
  unfold finishNormalSwap
  refine Keeps.get fun w => Keeps.bind (keeps_pyAssert _) fun _ => ?_
  split
  · exact Keeps.throw
  · refine Keeps.bind (sound_settleInvoice _ _) fun _ =>
      Keeps.bind (sound_deleteHoldInvoice env _ _) fun _ => Keeps.bind ?_ fun _ =>
      Keeps.bind (sound_quiet fun w₀ => quiet_deletePaymentInfo env w₀ _ _) fun _ =>
      Keeps.bind (sound_quiet fun w₀ => quiet_removeCallback w₀ _) fun _ =>
      Keeps.bind (sound_quiet fun w₀ => quiet_popSwapOrRaise w₀ _) fun _ =>
      sound_quiet (quiet_dbWrite env)
    split
    · exact sound_deleteHoldInvoice env _ _
    · exact Keeps.pure

omit [Deployment] in
theorem sound_broadcastRawTransaction (tx : PartialTransaction) :
    Keeps (Sound tracked durable target) (emit (.broadcastRawTransaction tx)) :=
  sound_emit ⟨fun _ h => h, fun _ h => (nomatch h), fun _ h => (nomatch h)⟩

theorem sound_claimNormal (ref : SwapRef) (txin : PartialTxInput) (remaining_time conf : Int) :
    Keeps (Sound tracked durable target) (claimNormal env ref txin remaining_time conf) := by
  unfold claimNormal
  refine Keeps.get fun w => Keeps.bind ?_ fun outcome => ?_
  · split
    · unfold inspectSpend
      refine Keeps.get fun _ => Keeps.bind (keeps_orRaise _ _) fun _ =>
        Keeps.bind (keeps_orRaise _ _) fun _ => Keeps.bind (keeps_orRaise _ _) fun _ =>
        Keeps.bind (keeps_liftExcept _) fun extracted => ?_
      cases extracted with
      | some preimage =>
        exact Keeps.bind (sound_modify fun w => Kept.assign ref _ w) fun _ =>
          Keeps.bind (sound_finishNormalSwap env ref) fun _ => Keeps.pure
      | none =>
        exact Keeps.ite (Keeps.bind (sound_modify fun w => Kept.assign ref _ w) fun _ =>
          Keeps.bind (sound_failSwap env ref) fun _ => Keeps.pure)
          (Keeps.ite (Keeps.bind (keeps_orRaise _ _) fun _ => Keeps.pure) Keeps.pure)
    · exact Keeps.pure
  · exact keeps_takeRefund env txin (fun _ => sound_modify fun w => Kept.assign ref _ w)
      sound_broadcastRawTransaction _ _ _

theorem sound_claimReverse (ref : SwapRef) (txin : PartialTxInput) (remaining_time conf : Int) :
    Keeps (Sound tracked durable target) (claimReverse env ref txin remaining_time conf) := by
  unfold claimReverse
  refine Keeps.get fun w => Keeps.bind ?_ fun _ => Keeps.get fun _ => Keeps.ite ?_
    (Keeps.ite Keeps.pure (keeps_broadcastClaim env txin
      (fun _ => sound_modify fun w => Kept.assign ref _ w) sound_broadcastRawTransaction conf))
  · split
    · exact Keeps.pure
    · exact Keeps.bind (keeps_getPreimage _) fun _ => sound_modify fun w => Kept.assign ref _ w
  · unfold queuePayment
    refine Keeps.get fun w => Keeps.ite Keeps.pure ?_
    split
    · exact Keeps.throw
    · exact Keeps.ite (sound_modify fun w => (Quiet.invoicesToPay _ w).toKept)
        (Keeps.ite Keeps.pure (sound_modify fun w => (Quiet.invoicesToPay _ w).toKept))

theorem sound_claimSwap (ref : SwapRef) : Keeps (Sound tracked durable target) (claimSwap env ref) := by
  unfold claimSwap
  refine Keeps.bind (keeps_orRaise _ _) fun upToDate => Keeps.ite ?_ Keeps.pure
  refine Keeps.bind (keeps_orRaise _ _) fun current_height => Keeps.get fun w =>
    Keeps.bind (keeps_orRaise _ _) fun txos => Keeps.bind (keeps_liftExcept _) fun selected => ?_
  cases selected with
  | none => exact Keeps.ite (sound_failSwap env ref) Keeps.pure
  | some txin =>
    unfold claimSelected claimFunded
    refine Keeps.bind (sound_modify fun w => Kept.assign ref _ w) fun _ =>
      Keeps.bind (sound_addOrReindexSwap ref) fun _ => Keeps.bind (keeps_orRaise _ _) fun _ =>
      Keeps.bind (Keeps.ite (sound_modify fun w => Kept.assign ref _ w) Keeps.pure) fun _ => ?_
    unfold claimLocated
    exact Keeps.get fun _ => Keeps.ite
      (Keeps.bind (sound_modify fun w => Kept.assign ref _ w) fun _ =>
        sound_quiet fun w₀ => quiet_deleteFinishedReverseSwap env w₀ ref)
      (Keeps.ite (sound_claimReverse env ref _ _ _) (sound_claimNormal env ref _ _ _))

end Swaps

/-! ## Steps and runs -/

/-- None of the HTLCs failed last, before anything else was said, is accepted in the datastore. -/
def View.FailuresSaved (v : View) : Prop :=
  ∀ d, v.db.disk = some d → d.holdInvoices.Without (GivenBack (v.said.takeWhile Event.fails))

/-- What the books ask of a step: hook calls as `HookOk` has them, an expiry pass that keeps them, and a
process that does not end between the failure of HTLCs and the write behind it. -/
structure StepKeeps [Deployment] (tracked durable : Prop) (target : HtlcKey → Option Bytes) (w : World)
    (a : Action) : Prop where
  htlc : tracked → ∀ env forward payment_secret request, a = .htlc env forward payment_secret request →
    HookOk target env forward payment_secret request w
  expiry : ∀ env, a = .expiry env → Sound tracked durable target (step (.expiry env) w)
  crash : tracked → ∀ env n v, a = .crash env n → w.views[n]? = some v → v.FailuresSaved

/-- **Every step keeps the books.** -/
theorem sound_step [Deployment] {w : World} {a : Action} (hdurable : tracked → durable)
    (hok : StepKeeps tracked durable target w a) (h : Sound tracked durable target w) :
    Sound tracked durable target (step a w) := by
  cases a with
  | request env r => exact (keeps_atStage (sound_handleRequest env r)).final h
  | htlc env forward payment_secret r =>
    have hhook : tracked → HookOk target env forward payment_secret r w :=
      fun ht => hok.htlc ht env forward payment_secret r rfl
    exact (sound_pluginHtlcAcceptedHook hhook).final ⟨rfl, h⟩
  | expiry env => exact hok.expiry env rfl
  | callbacks env => exact (sound_callbackHandler env (sound_callOf env)).final h
  | claim env address =>
    have hkeeps : Keeps (Sound tracked durable target) (claimAddress env address) := by
      unfold claimAddress
      refine Keeps.get fun w => ?_
      split
      · exact sound_claimSwap env _
      · exact Keeps.pure
    exact hkeeps.final h
  | updatePairs env => exact h.kept ⟨rfl, rfl, fun _ h => h, rfl, fun _ => .inl⟩
  | rehash k order =>
    refine h.mutHoldInvoice (fun inv hinv => (h.invoices.live k inv hinv).reorder order) ?_
    rintro - inv - κ ⟨a, ha, hacc, hkey⟩
    exact .inl ⟨a, HtlcSet.mem_reorder.mp ha, hacc, hkey⟩
  | payPending env =>
    exact (sound_quiet fun w₀ => quiet_payPendingLnInvoices env w₀).final h
  | payTask env n result =>
    refine (keeps_payTaskStep env (fun _ _ hq hs => hs.kept hq.toKept) (fun _ _ _ => ?_) n
      result).final h
    exact sound_emit ⟨fun _ h => h, fun _ h => (nomatch h), fun _ h => (nomatch h)⟩
  | reload env =>
    refine h.restart env (fun d hd => .inl (.inl ⟨d, .inl hd, rfl⟩)) h.log fun ht d hd => ?_
    exact (h.saved ht (hdurable ht)).saved d (.inl hd)
  | crash env n =>
    show Sound tracked durable target (w.crash env n)
    unfold World.crash
    split
    · exact h
    · next v hv =>
      have hmem : v ∈ w.views := List.mem_of_getElem? hv
      refine h.restart env (fun d hd => .inr ⟨v, hmem, d, hd, rfl⟩) (fun ht => h.views ht v hmem)
        fun ht d hd k inv hinv κ hκ hback => ?_
      rcases hback.split with hlast | hbefore
      · exact hok.crash ht env n v rfl hv d hd k inv hinv κ hκ hlast
      · exact h.points ht (hdurable ht) v hmem d hd k inv hinv κ hκ hbefore
  | initSwapManager =>
    have hkeeps : Keeps (Sound tracked durable target) initSwapManager := by
      unfold initSwapManager
      refine Keeps.get fun w => Keeps.forM fun item _ => Keeps.get fun w => Keeps.ite ?_ Keeps.pure
      exact Keeps.ite (sound_register _ _)
        (sound_modify fun w => (Quiet.popSwap _ w).toKept)
    exact (keeps_atStage (Keeps.bind hkeeps fun _ =>
      sound_modify fun w => (Quiet.managed true w).toKept)).final h
  | mainLoop =>
    have hkeeps : Keeps (Sound tracked durable target) mainLoop := by
      unfold mainLoop
      refine Keeps.get fun w => Keeps.bind (Keeps.forM fun item _ => Keeps.ite Keeps.pure ?_)
        fun _ => sound_modify fun w => (Quiet.invoicesToPay _ w).toKept
      exact sound_quiet fun w₀ => quiet_addLnwatcherCallback w₀ _
    exact (keeps_atStage hkeeps).final h

theorem sound_start : Sound tracked durable target World.start := by
  have hnone : ∀ {Q : HoldInvoice → Prop} k inv, (∅ : HoldInvoices).get? k = some inv → Q inv := by
    intro Q k inv h
    rw [HoldInvoices.get?_empty] at h
    cases h
  refine ⟨⟨hnone, fun H hH => ?_⟩, fun _ => hnone, fun _ => trivial, fun _ v hv => ?_,
    fun _ _ => ⟨hnone, fun d hd => ?_⟩, fun _ _ v hv d hd => ?_⟩
  · rcases hH with (⟨d, hd | hd, rfl⟩ | rfl) | ⟨v, hv, d, hd, rfl⟩
    · cases hd; exact hnone
    · cases hd; exact hnone
    · exact hnone
    · cases List.mem_singleton.mp hv
      cases hd; exact hnone
  · cases List.mem_singleton.mp hv
    exact trivial
  · rcases hd with hd | hd
    · cases hd; exact hnone
    · cases hd; exact hnone
  · cases List.mem_singleton.mp hv
    cases hd; exact hnone

/-- **After any run what is stored is in order**: whatever the surroundings did. -/
theorem Reachable.invoiceOk [Deployment] {ok : World → Action → Prop} {w : World}
    (h : Reachable ok w) {k : Hex} {inv : HoldInvoice} (hinv : w.holdInvoices.get? k = some inv) :
    InvoiceOk False (fun _ => none) inv := by
  have hsound : Sound False False (fun _ => none) w := by
    refine Run.invariant (I := Sound False False fun _ => none) (fun w a _ hs => ?_) h sound_start
    refine sound_step id ⟨False.elim, fun env _ => ?_, False.elim⟩ hs
    exact (sound_monitorExpiries env).final hs
  exact hsound.invoices.live k inv hinv

end

end SubswapProvider
