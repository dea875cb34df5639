import SubswapProvider.Creating
import SubswapProvider.Dropping

/-!
# What a normal swap leaves behind

A normal swap has entries in four tables under two payment hashes, and three functions delete some of
them: the expiry pass its hold invoices, `_finish_normal_swap` its hold invoices and what is kept under the
main hash, and `_fail_swap`, whose check asks for bytes among hex strings, none of them. The preimage of
the mining fees, which `create_payment_info` saves under the prepay hash, is deleted by nobody
(`Move.retains`). It stays in the datastore for good (`cleanedUp_never`).
-/

namespace SubswapProvider

open Deployment Effect

/-! ## The claim of a cleanup -/

/-- The document has an entry under the payment hash. -/
def Doc.Mentions (d : Doc) (payment_hash : Bytes) : Prop :=
  let k := hex payment_hash
  d.swaps.contains k = true ∨ (d.holdInvoices.get? k).isSome = true ∨ d.invoices.contains k = true ∨
    d.preimages.contains k = true

/-- The documents agree on what is under `k`. -/
structure Doc.SameAt (k : Hex) (d d' : Doc) : Prop where
  swaps : d'.swaps.get? k = d.swaps.get? k
  holdInvoices : d'.holdInvoices.get? k = d.holdInvoices.get? k
  invoices : d'.invoices.get? k = d.invoices.get? k
  preimages : d'.preimages.get? k = d.preimages.get? k

/-- Nothing of the swap is left in the datastore, and what belongs to others is as it was in `w₀`. -/
structure World.CleanedUp (w₀ w : World) (payment_hash prepay_hash : Bytes) : Prop where
  cleared : ∃ d, w.db.disk = some d ∧ ¬ d.Mentions payment_hash ∧ ¬ d.Mentions prepay_hash
  others : ∀ d₀ d, w₀.db.disk = some d₀ → w.db.disk = some d →
    ∀ k, k ≠ hex payment_hash → k ≠ hex prepay_hash → d₀.SameAt k d

/-! ## A preimage that stays -/

/-- The preimage under `key` is in the table and in the store. -/
structure World.HasPreimage (key : Hex) (w : World) : Prop where
  live : w.preimages.contains key = true
  stored : ∀ d, w.Stores d → d.preimages.contains key = true

/-- And at every point the process could end at, but for some old ones. -/
structure World.Retains (old : List View) (key : Hex) (w : World) : Prop extends w.HasPreimage key where
  points : ∀ v ∈ w.views, v ∉ old → ∀ d, v.db.disk = some d → d.preimages.contains key = true

/-- A patch that leaves the preimages of the document alone. -/
def KeepsPreimages (patch : Doc → Option Doc) : Prop :=
  ∀ d d', patch d = some d' → d'.preimages = d.preimages

section

variable {key : Hex} {old : List View} {w w' : World}

theorem KeepsPreimages.some_if {c : Doc → Bool} {f : Doc → Doc}
    (hf : ∀ d, (f d).preimages = d.preimages) : KeepsPreimages fun d => if c d then some (f d) else none := by
  intro d d' h
  dsimp only at h
  split at h
  · cases h
    exact hf d
  · cases h

theorem KeepsPreimages.none_if {c : Doc → Bool} {f : Doc → Doc}
    (hf : ∀ d, (f d).preimages = d.preimages) : KeepsPreimages fun d => if c d then none else some (f d) := by
  intro d d' h
  dsimp only at h
  split at h
  · cases h
  · cases h
    exact hf d

namespace World.HasPreimage

theorem of_same (hw : w.HasPreimage key) (hlive : w'.preimages = w.preimages)
    (hdb : ∀ d, w'.Stores d → w.Stores d) : w'.HasPreimage key :=
  ⟨hlive ▸ hw.live, fun d hd => hw.stored d (hdb d hd)⟩

theorem of_patch {patch : Doc → Option Doc} (hpatch : KeepsPreimages patch) (hw : w.HasPreimage key)
    (hlive : w'.preimages = w.preimages) (hdb : w'.db = w.db.addPatch patch) : w'.HasPreimage key := by
  refine ⟨hlive ▸ hw.live, fun d hd => ?_⟩
  rcases World.Stores.of_patch hdb hd with hd | ⟨d₀, hd₀, hpatched⟩
  · exact hw.stored d hd
  · rw [hpatch d₀ d hpatched]
    exact hw.stored d₀ hd₀

theorem consolidate (hw : w.HasPreimage key) : w.consolidate.HasPreimage key := by
  refine ⟨hw.live, fun d hd => ?_⟩
  rcases hd with hd | hd <;> cases hd <;> exact hw.live

theorem append (hw : w.HasPreimage key) : w.append.HasPreimage key :=
  ⟨hw.live, fun d hd => hd.elim (fun hd => hw.stored d (.inr hd)) fun hd => hw.stored d (.inr hd)⟩

theorem setPreimage (k : Hex) (v : Bytes) (hw : w.HasPreimage key) : (w.setPreimage k v).HasPreimage key := by
  have hset : ∀ t : Dict Hex Bytes, t.contains key = true → (t.set k v).contains key = true := by
    intro t ht
    obtain ⟨x, hx⟩ := Dict.contains_iff.mp ht
    rw [Dict.contains_iff, Dict.get?_set]
    split
    · exact ⟨v, rfl⟩
    · exact ⟨x, hx⟩
  unfold World.setPreimage
  split
  · exact hw
  · refine ⟨hset _ hw.live, fun d hd => ?_⟩
    rcases World.Stores.of_patch rfl hd with hd | ⟨d₀, hd₀, hpatched⟩
    · exact hw.stored d hd
    · split at hpatched
      · cases hpatched
      · cases hpatched
        exact hset _ (hw.stored d₀ hd₀)

theorem popPreimage {k : Hex} (hne : k ≠ key) (hw : w.HasPreimage key) :
    (w.popPreimage k).HasPreimage key := by
  have hpop : ∀ t : Dict Hex Bytes, t.contains key = true → (t.pop k).contains key = true := by
    intro t ht
    obtain ⟨x, hx⟩ := Dict.contains_iff.mp ht
    rw [Dict.contains_iff, Dict.get?_pop_ne t hne.symm]
    exact ⟨x, hx⟩
  unfold World.popPreimage
  split
  · refine ⟨hpop _ hw.live, fun d hd => ?_⟩
    rcases World.Stores.of_patch rfl hd with hd | ⟨d₀, hd₀, hpatched⟩
    · exact hw.stored d hd
    · split at hpatched
      · cases hpatched
        exact hpop _ (hw.stored d₀ hd₀)
      · cases hpatched
  · exact hw

theorem setInvoice (k : Hex) (v : Invoice) (hw : w.HasPreimage key) : (w.setInvoice k v).HasPreimage key := by
  unfold World.setInvoice
  split
  · exact hw
  · exact hw.of_patch (.none_if (c := fun d => w.invoices.contains k && !d.invoices.contains k)
      (f := fun d => { d with invoices := d.invoices.set k v }) fun _ => rfl) rfl rfl

theorem popInvoice (k : Hex) (hw : w.HasPreimage key) : (w.popInvoice k).HasPreimage key := by
  unfold World.popInvoice
  split
  · exact hw.of_patch (.some_if (c := fun d => d.invoices.contains k)
      (f := fun d => { d with invoices := d.invoices.pop k }) fun _ => rfl) rfl rfl
  · exact hw

theorem setHoldInvoice (invoice : HoldInvoice) (hw : w.HasPreimage key) :
    (w.setHoldInvoice invoice).HasPreimage key := by
  unfold World.setHoldInvoice
  dsimp only
  split
  · exact hw
  · exact hw.of_patch (.none_if (c := fun d => (w.holdInvoices.get? (hex invoice.paymentHash)).isSome &&
      (d.holdInvoices.get? (hex invoice.paymentHash)).isNone)
      (f := fun d => { d with holdInvoices := d.holdInvoices.set invoice.stored }) fun _ => rfl) rfl rfl

theorem popHoldInvoice (k : Hex) (hw : w.HasPreimage key) : (w.popHoldInvoice k).HasPreimage key := by
  unfold World.popHoldInvoice
  split
  · exact hw.of_patch (.some_if (c := fun d => (d.holdInvoices.get? k).isSome)
      (f := fun d => { d with holdInvoices := d.holdInvoices.pop k }) fun _ => rfl) rfl rfl
  · exact hw

theorem popSwap (k : Hex) (hw : w.HasPreimage key) : (w.popSwap k).HasPreimage key := by
  unfold World.popSwap
  split
  · exact hw.of_patch (.some_if (c := fun d => d.swaps.contains k)
      (f := fun d => { d with swaps := d.swaps.pop k }) fun _ => rfl) rfl rfl
  · exact hw

theorem setSwap (k : Hex) (ref : SwapRef) (hw : w.HasPreimage key) : (w.setSwap k ref).HasPreimage key := by
  refine hw.of_patch (fun d d' hpatched => ?_) rfl rfl
  cases hpatched
  rfl

theorem assign (ref : SwapRef) (f : SwapData → SwapData) (hw : w.HasPreimage key) :
    (w.assign ref f).HasPreimage key := by
  unfold World.assign
  dsimp only
  split
  · exact hw.of_patch (.some_if (c := fun d => d.swaps.contains (hex (w.heap ref).paymentHash))
      (f := fun d => { d with swaps := d.swaps.modify (hex (w.heap ref).paymentHash) f }) fun _ => rfl) rfl rfl
  · exact hw.of_same rfl fun _ hd => hd

theorem say (e : Event) (hw : w.HasPreimage key) : (w.say e).HasPreimage key :=
  hw.of_same rfl fun _ hd => hd

theorem answered (request : Request) (res : HookResult) (hw : w.HasPreimage key) :
    (w.answered request res).HasPreimage key := by
  unfold World.answered
  split
  · exact hw.say _
  · exact hw.say _

end World.HasPreimage

end

section

variable [Deployment] {a : Action} {w₀ w w' : World} {key : Hex} {old : List View}

/-- A move leaves the preimage, unless it is that of a finished swap. -/
theorem Move.hasPreimage (h : Move a w₀ w w') (hdrop : ¬ MayDrop a w key) (hw : w.HasPreimage key) :
    w'.HasPreimage key := by
  cases h with
  | consolidate => exact hw.consolidate
  | append => exact hw.append
  | setPreimage k v => exact hw.setPreimage k v
  | popPreimage k hmay =>
    refine hw.popPreimage ?_
    rintro rfl
    exact hdrop hmay
  | setInvoice k v => exact hw.setInvoice k v
  | popInvoice k => exact hw.popInvoice k
  | createHold invoice => exact hw.setHoldInvoice invoice
  | updateHold k invoice => exact (hw.popHoldInvoice k).setHoldInvoice _
  | bundle k invoice p => exact (hw.popHoldInvoice k).setHoldInvoice _
  | popHold k => exact hw.popHoldInvoice k
  | resolveHtlc k invoice htlc request st res =>
    exact World.HasPreimage.answered request res (hw.of_same rfl fun _ hd => hd)
  | setSwap ref => exact hw.setSwap _ ref
  | popSwap k => exact hw.popSwap k
  | assign ref f => exact hw.assign ref f
  | answerHook request res => exact hw.answered request res
  | say e => exact hw.say e
  | payInvoice => exact hw.say _
  | _ => exact hw.of_same rfl fun _ hd => hd

theorem Move.retains (h : Move a w₀ w w') (hdrop : ¬ MayDrop a w key) (hw : w.Retains old key) :
    w'.Retains old key := by
  have hhas := h.hasPreimage hdrop hw.toHasPreimage
  refine ⟨hhas, fun v hv hnew d hd => ?_⟩
  rcases h.told.newView hv with hv | ⟨hdisk, -⟩
  · exact hw.points v hv hnew d hd
  · exact hhas.stored d (.inl (hdisk ▸ hd))

omit [Deployment] in
theorem World.Retains.restart (env : Env) {view : View} (hview : ∀ d, view.db.disk = some d →
    d.preimages.contains key = true) (hw : w.Retains old key) : (w.restart env view).Retains old key := by
  unfold World.restart
  split
  · exact hw
  · next d hload =>
    have hdisk : view.db.disk = some d := by
      unfold Db.load at hload
      split at hload
      · cases hload
      · exact hload
    refine ⟨⟨hview d hdisk, fun d' hd' => hview d' ?_⟩, fun v hv _ d' hd' => ?_⟩
    · rcases hd' with hd' | hd' <;> exact hd'
    · cases List.mem_singleton.mp hv
      exact hview d' hd'

/-! ## The run behind the creation -/

/-- No client takes the hash for a swap of its own. -/
def Unclaimed (prepay_hash : Bytes) (a : Action) : Prop := ∀ pair ∈ a.pair?, pair.1 ≠ prepay_hash

/-- And the process does not fall back behind some of its points. -/
def Onward (old : List View) (prepay_hash : Bytes) (w : World) (a : Action) : Prop :=
  Unclaimed prepay_hash a ∧
    match a with
    | .crash _ n => ∀ v ∈ w.views[n]?, v ∉ old
    | _ => True

/-- No normal swap has the hash for its main one. -/
def SwapData.Spares (prepay_hash : Bytes) (swap : SwapData) : Prop :=
  swap.isReverse = false → swap.paymentHash ≠ prepay_hash

variable {prepay_hash : Bytes}

theorem survives_spares (hun : Unclaimed prepay_hash a) :
    Survives a w₀ fun w => True ∧ SwapsThroughout (SwapData.Spares prepay_hash) w := by
  refine Survives.trivial.swaps (fun swap hnew hnormal => ?_) (fun _ h => h)
    (fun _ _ _ _ f hf swap hspares => ?_) fun _ _ h => h
  · obtain ⟨q, hpair, -⟩ := hnew.normal hnormal
    exact hun _ hpair
  · intro hnormal
    rw [hf.isReverse] at hnormal
    have hhash : (f swap).paymentHash = swap.paymentHash := by cases hf <;> rfl
    rw [hhash]
    exact hspares hnormal

omit [Deployment] in
/-- A swap that is finished is none with the prepay hash. -/
theorem not_mayDrop (hw : SwapsThroughout (SwapData.Spares prepay_hash) w) :
    ¬ MayDrop a w (hex prepay_hash) := by
  rintro ⟨-, ref, htracks, hnormal, hk⟩
  exact hw.live ref (hw.tracks htracks) hnormal (hex_inj.mp hk).symm

theorem survives_retains (hun : Unclaimed prepay_hash a) (hrestart : ¬ a.Restarts) :
    Survives a w₀ fun w => (True ∧ SwapsThroughout (SwapData.Spares prepay_hash) w) ∧
      w.Retains old (hex prepay_hash) where
  move w w' hmove hw := ⟨(survives_spares hun).move w w' hmove hw.1,
    hmove.retains (not_mayDrop hw.1.2) hw.2⟩
  restart env view ha := absurd ha hrestart
  create w₁ w main ref hw₁ hdue hprepared hw href hnone := by
    refine ⟨(survives_spares hun).create w₁ w main ref hw₁.1 hdue hprepared hw.1 href hnone,
      hw.2.toHasPreimage.say _, fun v hv hnew d hd => ?_⟩
    rcases List.mem_cons.mp hv with rfl | hv
    · exact hw.2.stored d (.inl hd)
    · exact hw.2.points v hv hnew d hd
  send w₁ w main ref tx hw₁ hdue hprepared hw href hnone := by
    have hassigned : ((w.createFunding ref).assign ref fun swap =>
        { swap with fundingTxid := some tx.txid }).HasPreimage (hex prepay_hash) :=
      hw.2.toHasPreimage.assign ref _
    refine ⟨(survives_spares hun).send w₁ w main ref tx hw₁.1 hdue hprepared hw.1 href hnone,
      hassigned.say _, fun v hv hnew d hd => ?_⟩
    rcases List.mem_cons.mp hv with rfl | hv
    · exact hassigned.stored d (.inl hd)
    · rw [(Recorded.assign (w.createFunding ref) ref _).views] at hv
      exact hw.2.points v hv hnew d hd

/-- **A step leaves the preimage of the mining fees.** -/
theorem step_retains (ha : Onward old prepay_hash w a)
    (hw : SwapsThroughout (SwapData.Spares prepay_hash) w) (hretains : w.Retains old (hex prepay_hash)) :
    SwapsThroughout (SwapData.Spares prepay_hash) (step a w) ∧
      (step a w).Retains old (hex prepay_hash) := by
  have hspares : SwapsThroughout (SwapData.Spares prepay_hash) (step a w) :=
    (step_invariant (survives_spares ha.1) ⟨trivial, hw⟩).2
  by_cases hrestart : a.Restarts
  · refine ⟨hspares, ?_⟩
    cases a with
    | reload env => exact hretains.restart env fun d hd => hretains.stored d (.inl hd)
    | crash env n =>
      show (w.crash env n).Retains old _
      unfold World.crash
      split
      · exact hretains
      · next view hview =>
        exact hretains.restart env fun d hd => hretains.points view (List.mem_of_getElem? hview)
          (ha.2 view hview) d hd
    | _ => exact hrestart.elim
  · have hstep := step_invariant (survives_retains ha.1 hrestart) ⟨⟨trivial, hw⟩, hretains⟩
    exact ⟨hspares, hstep.2⟩

/-! ## The creation -/

omit [Deployment] in
theorem hasPreimage_dbWrite (env : Env) : Keeps (World.HasPreimage key) (dbWrite env) :=
  Keeps.get fun _ => Keeps.bind (Keeps.modify fun _ hs => hs.of_same rfl fun _ hd => hd) fun _ =>
    Keeps.ite
      (Keeps.ite (Keeps.ite Keeps.throw (Keeps.modify fun _ hs => hs.consolidate)) Keeps.pure)
      (Keeps.ite (Keeps.ite Keeps.throw (Keeps.modify fun _ hs => hs.append)) Keeps.pure)

omit [Deployment] in
theorem hasPreimage_saveHoldInvoice (env : Env) (invoice : HoldInvoice) :
    Keeps (World.HasPreimage key) (saveHoldInvoice env invoice) :=
  Keeps.bind (Keeps.modify fun _ hs => hs.setHoldInvoice invoice) fun _ => hasPreimage_dbWrite env

theorem hasPreimage_b11invoiceFromHash (env : Env) (payment_hash : Bytes) (amount_msat : Int)
    (message : String) (expiry : Nat) : Keeps (World.HasPreimage key)
      (b11invoiceFromHash env payment_hash amount_msat message expiry) := by
  unfold b11invoiceFromHash
  exact Keeps.bind (keeps_pyAssert _) fun _ => Keeps.bind (Keeps.ite Keeps.pure Keeps.throw) fun _ =>
    Keeps.bind (keeps_orRaise _ _) fun _ => Keeps.bind (Keeps.ite Keeps.throw Keeps.pure) fun _ =>
    Keeps.bind (keeps_orRaise _ _) fun _ => Keeps.bind (hasPreimage_saveHoldInvoice env _) fun _ =>
    Keeps.pure

omit [Deployment] in
theorem hasPreimage_bundlePayments (env : Env) (swap_invoice prepay_invoice : Bytes) :
    Keeps (World.HasPreimage key) (bundlePayments env swap_invoice prepay_invoice) := by
  unfold bundlePayments
  refine Keeps.get fun w => ?_
  split
  · exact Keeps.throw
  · exact Keeps.bind (Keeps.modify fun _ hs => hs.popHoldInvoice _) fun _ =>
      Keeps.bind (Keeps.ite Keeps.throw Keeps.pure) fun _ => hasPreimage_saveHoldInvoice env _

omit [Deployment] in
theorem hasPreimage_registerHoldInvoiceCallback (k : Hex) (callback : HoldInvoiceCallback) :
    Keeps (World.HasPreimage key) (registerHoldInvoiceCallback k callback) :=
  Keeps.modify fun _ hs => hs.of_same rfl fun _ hd => hd

/-- A new preimage is in the table and the store when `create_payment_info` returns. -/
theorem triple_createPaymentInfo_hasPreimage (env : Env)
    (hfresh : w.preimages.get? (hex (sha256 env.urandomPreimage)) = none) :
    Triple (· = w) (createPaymentInfo env)
      (fun _ s => s.HasPreimage (hex (sha256 env.urandomPreimage))) fun _ _ => True := by
  let k := hex (sha256 env.urandomPreimage)
  have hset : ∀ t : Dict Hex Bytes, (t.set k env.urandomPreimage).contains k = true := fun t =>
    Dict.contains_iff.mpr ⟨_, Dict.get?_set_self _ _ _⟩
  dsimp only [createPaymentInfo, savePreimage]
  rw [if_neg (by simp)]
  have hchanged : ¬ w.preimages.get? k = some env.urandomPreimage := by
    rw [show w.preimages.get? k = none from hfresh]
    nofun
  refine Triple.bind (R := fun _ s => s.HasPreimage k) ?_ fun _ => Triple.pure fun _ hs => hs
  refine Triple.modifyBind (R := (· = w.setPreimage k env.urandomPreimage)) (fun s hs => hs ▸ rfl) ?_
  have hwritten := (written_dbWrite env (Q := fun d => d.preimages.contains k = true)).and
    (preimages_dbWrite env (J := fun t => t.contains k = true))
  refine hwritten.conseq (fun s hs => ?_) (fun _ s hs => ⟨hs.2, fun d hd => hs.1 d hd.image⟩)
    fun _ _ _ => trivial
  subst hs
  unfold World.setPreimage
  rw [if_neg hchanged]
  refine ⟨⟨fun d hd => ?_, hset _, rfl, rfl⟩, hset _⟩
  obtain ⟨d₀, -, hpatched⟩ := Option.bind_eq_some_iff.mp hd
  split at hpatched
  · cases hpatched
  · cases hpatched
    exact hset _

/-- A creation that gets to storing the swap has stored the preimage. -/
theorem triple_createNormalSwap_hasPreimage (env : Env) (lightning_amount_sat : Int)
    (payment_hash their_pubkey : Bytes)
    (hfresh : w.preimages.get? (hex (sha256 env.urandomPreimage)) = none) :
    Triple (· = w) (createNormalSwap env lightning_amount_sat payment_hash their_pubkey)
      (fun _ s => s.HasPreimage (hex (sha256 env.urandomPreimage)))
      fun _ s => s.swaps = w.swaps ∨ s.HasPreimage (hex (sha256 env.urandomPreimage)) := by
  have hstop : ∀ s, s = w → s.swaps = w.swaps ∨ s.HasPreimage (hex (sha256 env.urandomPreimage)) :=
    fun s hs => .inl (by rw [hs])
  have hkeep : ∀ {α : Type} {x : PyM α}, Keeps (World.HasPreimage (hex (sha256 env.urandomPreimage))) x →
      Triple (World.HasPreimage (hex (sha256 env.urandomPreimage))) x
        (fun _ s => s.HasPreimage (hex (sha256 env.urandomPreimage)))
        fun _ s => s.swaps = w.swaps ∨ s.HasPreimage (hex (sha256 env.urandomPreimage)) :=
    fun hx => hx.conseq (fun _ hs => hs) (fun _ _ hs => hs) fun _ _ hs => .inr hs
  unfold createNormalSwap
  refine triple_pyAssert hstop fun _ => triple_orRaise hstop fun height _ => triple_getRecvAmount hstop
    fun pairs => Triple.pre (R := (· = w)) ?_ fun _ hs => hs.1
  refine Triple.bind (R := fun _ s => s.HasPreimage (hex (sha256 env.urandomPreimage))) ?_ fun _ =>
    hkeep (Keeps.bind (hasPreimage_registerHoldInvoiceCallback _ _) fun _ => Keeps.pure)
  unfold addNormalSwap
  refine Triple.bind (R := fun _ s => s.swaps = w.swaps ∧
    s.preimages.get? (hex (sha256 env.urandomPreimage)) = none) ?_ fun _ => ?_
  · have hquiet := (preimages_b11invoiceFromHash env
      (J := fun t => t.get? (hex (sha256 env.urandomPreimage)) = none) payment_hash
      ((lightning_amount_sat - (getClaimFee env * 2 : Int)) * 1000) "Submarine swap" 300).and
      (same_b11invoiceFromHash env w payment_hash
        ((lightning_amount_sat - (getClaimFee env * 2 : Int)) * 1000) "Submarine swap" 300)
    refine hquiet.conseq (fun s hs => ?_) (fun _ _ hs => ⟨hs.2.swaps, hs.1⟩)
      fun _ _ hs => .inl hs.2.swaps
    subst hs
    exact ⟨hfresh, SwapsSame.refl s⟩
  · refine Triple.bind (R := fun _ s => s.HasPreimage (hex (sha256 env.urandomPreimage))) ?_ fun _ => ?_
    · refine Triple.at fun s hs => ?_
      have hcreate := (triple_createPaymentInfo_hasPreimage env hs.2).and (same_createPaymentInfo env s)
      refine hcreate.conseq (fun _ h => ⟨h, h ▸ SwapsSame.refl s⟩) (fun _ _ h => h.1) fun _ s' h => ?_
      exact .inl (h.2.swaps.trans hs.1)
    · refine hkeep (Keeps.bind (hasPreimage_b11invoiceFromHash env _ _ _ _) fun _ =>
        Keeps.bind (hasPreimage_bundlePayments env _ _) fun _ => Keeps.bind (keeps_orRaise _ _) fun _ =>
        Keeps.get fun s => Keeps.bind (Keeps.modify fun _ hs => hs.of_same rfl fun _ hd => hd) fun _ =>
        Keeps.bind (Keeps.get fun _ => Keeps.ite Keeps.pure (Keeps.modify fun _ hs => hs.setSwap _ _)) fun _ =>
        Keeps.bind (Keeps.ite Keeps.pure Keeps.throw) fun _ =>
        Keeps.bind (Keeps.modify fun _ hs => hs.of_same rfl fun _ hd => hd) fun _ => Keeps.pure)

/-- So has a `createswap` that leaves a new swap in the table. -/
theorem hasPreimage_created {payment_hash : Bytes} (hpair : a.pair? = some (payment_hash, prepay_hash))
    (hfresh : w.preimages.get? (hex prepay_hash) = none)
    (hnew : w.swaps.contains (hex payment_hash) = false)
    (hcreated : (step a w).swaps.contains (hex payment_hash) = true) :
    (step a w).HasPreimage (hex prepay_hash) := by
  obtain ⟨env, type, pairId, invoiceAmount, claimPublicKey, rfl, rfl⟩ : ∃ env type pairId invoiceAmount
      claimPublicKey, a = .request env (.createswap type pairId invoiceAmount payment_hash claimPublicKey) ∧
        sha256 env.urandomPreimage = prepay_hash := by
    unfold Action.pair? at hpair
    split at hpair
    · cases hpair
      exact ⟨_, _, _, _, _, rfl, rfl⟩
    · cases hpair
  have hstop : ∀ s, s = w → s.swaps = w.swaps ∨ s.HasPreimage (hex (sha256 env.urandomPreimage)) :=
    fun s hs => .inl (by rw [hs])
  have htriple : Triple (· = w) (programOf (.request env
      (.createswap type pairId invoiceAmount payment_hash claimPublicKey)))
      (fun _ s => s.swaps = w.swaps ∨ s.HasPreimage (hex (sha256 env.urandomPreimage)))
      fun _ s => s.swaps = w.swaps ∨ s.HasPreimage (hex (sha256 env.urandomPreimage)) := by
    refine Triple.getBind fun s hs => ?_
    subst hs
    split
    · show Triple _ (serverCreateSwap env type pairId invoiceAmount payment_hash claimPublicKey) _ _
      unfold serverCreateSwap
      refine triple_pyAssert hstop fun _ => ?_
      split
      · refine triple_pyAssert hstop fun _ => triple_pyAssert hstop fun _ => ?_
        split
        · exact Triple.pure hstop
        · refine triple_orRaise hstop fun _ _ => ?_
          split
          · exact Triple.pure hstop
          · exact Triple.bind (triple_createNormalSwap_hasPreimage env _ _ _ hfresh) fun _ =>
              Triple.pure fun _ hs => .inr hs
      · exact Triple.pure hstop
    · exact Triple.pure hstop
  have hfinal : (step _ w).swaps = w.swaps ∨ (step _ w).HasPreimage _ := htriple.final rfl
  refine hfinal.resolve_left fun hsame => ?_
  rw [hsame, hnew] at hcreated
  cases hcreated

/-! ## No course of a swap clears it away -/

/-- **Whatever its course, a normal swap is never cleaned up.** With hashes that are new, and that no other
client takes for its own, the datastore has the preimage of its mining fees in every state behind its
creation. -/
theorem cleanedUp_never {create : Action} {payment_hash : Bytes}
    (hreach : Reachable (fun _ => Unclaimed prepay_hash) w₀)
    (hpair : create.pair? = some (payment_hash, prepay_hash))
    (hfresh : FreshHashes payment_hash prepay_hash w₀)
    (hnew : w₀.swaps.contains (hex payment_hash) = false)
    (hcreated : (step create w₀).swaps.contains (hex payment_hash) = true)
    (hrun : Run step (Onward (step create w₀).views prepay_hash) (step create w₀) w) :
    (∀ d, w.db.disk = some d → d.preimages.contains (hex prepay_hash) = true) ∧
    (w.swaps.contains (hex payment_hash) = false →
      ∀ before : World, ¬ before.CleanedUp w payment_hash prepay_hash) := by
  have hkeeps : ∀ t a, Unclaimed prepay_hash a → SwapsThroughout (SwapData.Spares prepay_hash) t →
      SwapsThroughout (SwapData.Spares prepay_hash) (step a t) :=
    fun t a ha ht => (step_invariant (survives_spares ha) ⟨trivial, ht⟩).2
  have hspares : SwapsThroughout (SwapData.Spares prepay_hash) w₀ :=
    Run.invariant hkeeps hreach SwapsThroughout.start
  have hunclaimed : Unclaimed prepay_hash create := by
    intro pair hmem heq
    rw [hpair] at hmem
    cases hmem
    exact hfresh.distinct heq.symm
  have hcreate : SwapsThroughout (SwapData.Spares prepay_hash) (step create w₀) :=
    hkeeps w₀ create hunclaimed hspares
  have hhas := hasPreimage_created hpair hfresh.prepay_preimage hnew hcreated
  have hretains := Run.invariant (I := fun w => SwapsThroughout (SwapData.Spares prepay_hash) w ∧
    w.Retains (step create w₀).views (hex prepay_hash)) (fun t a ha ht => step_retains ha ht.1 ht.2) hrun
    ⟨hcreate, hhas, fun v hv hnot => absurd hv hnot⟩
  have hstored : ∀ d, w.db.disk = some d → d.preimages.contains (hex prepay_hash) = true :=
    fun d hd => hretains.2.stored d (.inl hd)
  refine ⟨hstored, fun _ before hclean => ?_⟩
  obtain ⟨d, hd, -, hnone⟩ := hclean.cleared
  exact hnone (.inr (.inr (.inr (hstored d hd))))

end

section Sample

open Sample

attribute [local instance] Sample.deployment

/-- What happens behind the creation of the sample's swap: both invoices are paid, the lockup address is
funded, and the client's claim is found in the newest block. -/
def afterCreation : List Action :=
  [deliver 1 paymentHash 49728000, deliver 2 prepayHash 272000, .callbacks Sample.env,
    .claim (claimedEnv 900000) "bcrt1qlockup"]

/-- The swap of the sample once it has been created. -/
def onceCreated : World := step (.request Sample.env (createswap 50000)) (runOf boot World.start)

theorem cleanedUp_never_finished :
    (runOf afterCreation onceCreated).swaps.contains (hex paymentHash) = false ∧
      ¬ onceCreated.CleanedUp (runOf afterCreation onceCreated) paymentHash prepayHash := by
  have hremoved : (runOf afterCreation onceCreated).swaps.contains (hex paymentHash) = false := by
    decide +kernel
  have hreach : Reachable (fun _ => Unclaimed prepayHash) (runOf boot World.start) :=
    Run.of_allows .refl ⟨(fun _ h => nomatch h), (fun _ h => nomatch h), (fun _ h => nomatch h), trivial⟩
  have hfresh : FreshHashes paymentHash prepayHash (runOf boot World.start) :=
    ⟨by decide +kernel, by decide +kernel, by decide +kernel, by decide +kernel⟩
  have hrun : Run step (Onward onceCreated.views prepayHash) onceCreated (runOf afterCreation onceCreated) :=
    Run.of_allows .refl ⟨⟨(fun _ h => nomatch h), trivial⟩, ⟨(fun _ h => nomatch h), trivial⟩,
      ⟨(fun _ h => nomatch h), trivial⟩, ⟨(fun _ h => nomatch h), trivial⟩, trivial⟩
  exact ⟨hremoved, (cleanedUp_never hreach (by rfl) hfresh (by decide +kernel) (by decide +kernel) hrun).2
    hremoved onceCreated⟩

/-- The swap is over in every respect, and the preimage of its mining fees is still in the datastore. -/
theorem finished_not_cleanedUp :
    FreshHashes paymentHash prepayHash (runOf boot World.start) ∧
    onceCreated.swaps.contains (hex paymentHash) = true ∧
    (runOf afterCreation onceCreated).swaps.contains (hex paymentHash) = false ∧
    ¬ onceCreated.CleanedUp (runOf afterCreation onceCreated) paymentHash prepayHash := by
  refine ⟨⟨by decide +kernel, by decide +kernel, by decide +kernel, by decide +kernel⟩,
    by decide +kernel, by decide +kernel, ?_⟩
  have hleft : ((runOf afterCreation onceCreated).db.disk.any fun d =>
      d.preimages.contains (hex prepayHash) && !d.swaps.contains (hex paymentHash) &&
        (d.holdInvoices.get? (hex prepayHash)).isNone) = true := by decide +kernel
  rintro ⟨⟨d, hd, -, hnot⟩, -⟩
  rw [hd, Option.any_some, Bool.and_eq_true, Bool.and_eq_true] at hleft
  exact hnot (.inr (.inr (.inr hleft.1.1)))

end Sample

end SubswapProvider
