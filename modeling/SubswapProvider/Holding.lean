import SubswapProvider.Frame

/-!
# The books of the hold invoices

What the `hold_invoices` table says of the HTLCs lightningd holds for the plugin. `Sound` collects
what stays true of every stored invoice, in the process and in the datastore:

* a funded invoice is fully funded,
* the callback of an HTLC is a hook call for that HTLC.

With `tracked`, it also compares the table with what the plugin has answered: an HTLC that counts as
accepted has not been given back to lightningd; with `durable`, the same of what the datastore has, now and
wherever the process could have ended. `target` is the final payment hash of an HTLC as lightningd tells
it on every call, `none` for one that is to be forwarded.
-/

namespace SubswapProvider

open Deployment Effect

/-! ## What has been given back -/

/-- The event lets go of the HTLC `κ`: lightningd goes on without the plugin, or fails it. -/
def Event.GivesBack (κ : HtlcKey) : Event → Prop
  | .answer request .continue_ => request.htlc.key = κ
  | .answer request (.fail _) => request.htlc.key = κ
  | _ => False

def GivenBack (log : List Event) (κ : HtlcKey) : Prop := ∃ e ∈ log, e.GivesBack κ

theorem givenBack_cons {e : Event} {log : List Event} {κ : HtlcKey} :
    GivenBack (e :: log) κ ↔ e.GivesBack κ ∨ GivenBack log κ := by
  unfold GivenBack
  simp

theorem GivenBack.mono {log log' : List Event} {κ : HtlcKey} (h : GivenBack log κ)
    (hsub : ∀ e ∈ log, e ∈ log') : GivenBack log' κ := by
  obtain ⟨e, he, hback⟩ := h
  exact ⟨e, hsub e he, hback⟩

/-- The event fails an HTLC. -/
def Event.fails : Event → Bool
  | .answer _ (.fail _) => true
  | _ => false

/-- What has been given back was given back by the failures said last, or before them. -/
theorem GivenBack.split {log : List Event} {κ : HtlcKey} (h : GivenBack log κ) :
    GivenBack (log.takeWhile Event.fails) κ ∨ GivenBack (log.dropWhile Event.fails) κ := by
  obtain ⟨e, he, hback⟩ := h
  rw [← List.takeWhile_append_dropWhile (p := Event.fails) (l := log), List.mem_append] at he
  exact he.imp (fun he => ⟨e, he, hback⟩) fun he => ⟨e, he, hback⟩

/-- The invoice has an accepted HTLC `κ`. -/
def HoldInvoice.Holds (inv : HoldInvoice) (κ : HtlcKey) : Prop :=
  ∃ h ∈ inv.incomingHtlcs, h.state = .accepted ∧ h.key = κ

theorem HoldInvoice.holds_stored {inv : HoldInvoice} {κ : HtlcKey} :
    inv.stored.Holds κ ↔ inv.Holds κ := by
  constructor
  · rintro ⟨h, hmem, hacc, hkey⟩
    obtain ⟨a, ha, rfl⟩ := HoldInvoice.mem_stored.mp hmem
    exact ⟨a, ha, hacc, hkey⟩
  · rintro ⟨h, hmem, hacc, hkey⟩
    exact ⟨h.stored, HoldInvoice.mem_stored.mpr ⟨h, hmem, rfl⟩, hacc, hkey⟩

/-- No HTLC that the hold invoices have as accepted is one of `P`. -/
def HoldInvoices.Without (H : HoldInvoices) (P : HtlcKey → Prop) : Prop :=
  ∀ k inv, H.get? k = some inv → ∀ κ, inv.Holds κ → ¬ P κ

namespace HoldInvoices.Without

variable {H : HoldInvoices} {P Q : HtlcKey → Prop}

theorem mono (h : H.Without Q) (hPQ : ∀ κ, P κ → Q κ) : H.Without P :=
  fun k inv hinv κ hκ hP => h k inv hinv κ hκ (hPQ κ hP)

/-- The failures said last are left out. -/
theorem dropWhile {log : List Event} (h : H.Without (GivenBack log)) :
    H.Without (GivenBack (log.dropWhile Event.fails)) :=
  h.mono fun _ hback => hback.mono fun _ he => (List.dropWhile_sublist _).subset he

theorem stored (h : H.Without P) : H.stored.Without P := by
  intro k inv hinv κ hκ
  rw [HoldInvoices.get?_stored] at hinv
  obtain ⟨inv', hinv', rfl⟩ := Option.map_eq_some_iff.mp hinv
  exact h k inv' hinv' κ (HoldInvoice.holds_stored.mp hκ)

theorem set {invoice : HoldInvoice} (h : H.Without P) (hinv : ∀ κ, invoice.Holds κ → ¬ P κ) :
    (H.set invoice).Without P := by
  intro k inv hget
  rw [HoldInvoices.get?_set] at hget
  split at hget
  · cases hget
    exact hinv
  · exact h k inv hget

theorem pop (k : Hex) (h : H.Without P) : (H.pop k).Without P := by
  intro k' inv hget
  rw [HoldInvoices.get?_pop] at hget
  split at hget
  · cases hget
  · exact h k' inv hget

end HoldInvoices.Without

/-- What `is_fully_funded` counts is there: the sum is reached, and no accepted HTLC has been given
back. -/
structure CountsHeld (log : List Event) (inv : HoldInvoice) : Prop where
  funded : inv.isFullyFunded = true
  held : ∀ κ, inv.Holds κ → ¬ GivenBack log κ

/-- Every funding decision of the log was taken on HTLCs that were held at the time. -/
def LogOk : List Event → Prop
  | [] => True
  | e :: log =>
    LogOk log ∧ ∀ inv, e = .funded inv ∨ e = .invokeCallback inv → CountsHeld log inv

theorem LogOk.at {log : List Event} (h : LogOk log) {post pre : List Event} {e : Event}
    (hlog : log = post ++ e :: pre) {inv : HoldInvoice}
    (he : e = .funded inv ∨ e = .invokeCallback inv) : CountsHeld pre inv := by
  induction post generalizing log with
  | nil =>
    subst hlog
    exact h.2 inv he
  | cons e' post ih =>
    subst hlog
    exact ih h.1 rfl

/-! ## What holds of every stored invoice -/

/-- `P` holds of every hold invoice, of the process or of a store a restart could find. -/
structure EveryHold (P : HoldInvoice → Prop) (w : World) : Prop where
  live : ∀ k inv, w.holdInvoices.get? k = some inv → P inv
  stored : ∀ H, w.StoredHolds H → ∀ k inv, H.get? k = some inv → P inv

namespace EveryHold

variable {P : HoldInvoice → Prop} {w : World}

theorem kept {w' : World} (h : EveryHold P w) (hk : Kept w w') : EveryHold P w' where
  live k inv hinv := h.live k inv (hk.holdInvoices ▸ hinv)
  stored H hH := h.stored H (hk.stored H hH)

/-- Only the table and the store matter. -/
theorem congr {w' : World} (h : EveryHold P w) (hholds : w'.holdInvoices = w.holdInvoices)
    (hdb : w'.db = w.db) (hviews : ∀ v ∈ w'.views, v ∈ w.views ∨ v.db = w.db) :
    EveryHold P w' where
  live k inv hinv := h.live k inv (hholds ▸ hinv)
  stored H hH := by
    refine h.stored H ?_
    rcases hH with hnow | ⟨v, hv, d, hd, hH⟩
    · refine .inl ?_
      unfold World.StoredNow World.Stores at hnow ⊢
      rwa [hdb, hholds] at hnow
    · rcases hviews v hv with hv | hv
      · exact .inr ⟨v, hv, d, hd, hH⟩
      · exact .inl (.inl ⟨d, .inl (hv ▸ hd), hH⟩)

theorem say (e : Event) (h : EveryHold P w) : EveryHold P (w.say e) := by
  refine h.congr rfl rfl fun v hv => ?_
  rcases List.mem_cons.mp hv with rfl | hv
  · exact .inr rfl
  · exact .inl hv

variable (hP : ∀ inv, P inv → P inv.stored)

include hP

/-- The table as it would be written. -/
theorem of_live {T : HoldInvoices} (hT : ∀ k inv, T.get? k = some inv → P inv) {k : Hex}
    {inv : HoldInvoice} (h : T.stored.get? k = some inv) : P inv := by
  rw [HoldInvoices.get?_stored] at h
  obtain ⟨inv', hinv', rfl⟩ := Option.map_eq_some_iff.mp h
  exact hP inv' (hT k inv' hinv')

/-- A change of the table that is recorded as `patch`. -/
theorem of_patch {w' : World} {patch : Doc → Option Doc} (h : EveryHold P w)
    (hlive : ∀ k inv, w'.holdInvoices.get? k = some inv → P inv)
    (hdb : w'.db = w.db.addPatch patch) (hviews : w'.views = w.views)
    (hpatch : ∀ d d', patch d = some d' → (∀ k inv, d.holdInvoices.get? k = some inv → P inv) →
      ∀ k inv, d'.holdInvoices.get? k = some inv → P inv) : EveryHold P w' where
  live := hlive
  stored H hH k inv hinv := by
    rcases hH with (⟨d, hd | hd, rfl⟩ | rfl) | hH
    · rw [hdb] at hd
      exact h.stored _ (.inl (.inl ⟨d, .inl hd, rfl⟩)) k inv hinv
    · rw [hdb] at hd
      obtain ⟨d₀, hd₀, hpd⟩ := Option.bind_eq_some_iff.mp hd
      exact hpatch d₀ d hpd (h.stored _ (.inl (.inl ⟨d₀, .inr hd₀, rfl⟩))) k inv hinv
    · exact of_live hP hlive hinv
    · rw [hviews] at hH
      exact h.stored H (.inr hH) k inv hinv

theorem setHoldInvoice {invoice : HoldInvoice} (h : EveryHold P w) (hinv : P invoice) :
    EveryHold P (w.setHoldInvoice invoice) := by
  have hset : ∀ (T : HoldInvoices) (v : HoldInvoice), P v →
      (∀ k inv, T.get? k = some inv → P inv) →
      ∀ k inv, (T.set v).get? k = some inv → P inv := by
    intro T v hv hT k inv hget
    rw [HoldInvoices.get?_set] at hget
    split at hget
    · cases hget; exact hv
    · exact hT k inv hget
  dsimp only [World.setHoldInvoice]
  split
  · exact h
  · refine of_patch hP h (hset _ _ hinv h.live) rfl rfl fun d d' hd hlive => ?_
    split at hd
    · cases hd
    · cases hd
      exact hset _ _ (hP _ hinv) hlive

theorem popHoldInvoice (k : Hex) (h : EveryHold P w) : EveryHold P (w.popHoldInvoice k) := by
  have hpop : ∀ T : HoldInvoices, (∀ k inv, T.get? k = some inv → P inv) →
      ∀ k' inv, (T.pop k).get? k' = some inv → P inv := by
    intro T hT k' inv hget
    rw [HoldInvoices.get?_pop] at hget
    split at hget
    · cases hget
    · exact hT k' inv hget
  unfold World.popHoldInvoice
  split
  · refine of_patch hP h (hpop _ h.live) rfl rfl fun d d' hd hlive => ?_
    split at hd
    · cases hd
      exact hpop _ hlive
    · cases hd
  · exact h

theorem mutHoldInvoice {k : Hex} {f : HoldInvoice → HoldInvoice}
    {hf : ∀ inv, (f inv).paymentHash = inv.paymentHash} (h : EveryHold P w)
    (hok : ∀ inv, w.holdInvoices.get? k = some inv → P (f inv)) :
    EveryHold P (w.mutHoldInvoice k f hf) := by
  have hlive : ∀ k' inv, (w.holdInvoices.modify k f hf).get? k' = some inv → P inv := by
    intro k' inv hget
    rw [HoldInvoices.get?_modify] at hget
    split at hget
    · next hk =>
      obtain ⟨inv', hinv', rfl⟩ := Option.map_eq_some_iff.mp hget
      exact hok inv' (hk ▸ hinv')
    · exact h.live k' inv hget
  refine ⟨hlive, fun H hH k' inv hget => ?_⟩
  rcases hH with (hstored | rfl) | hview
  · exact h.stored H (.inl (.inl hstored)) k' inv hget
  · exact of_live hP hlive hget
  · exact h.stored H (.inr hview) k' inv hget

/-- A restart finds what was stored. -/
theorem restart (env : Env) {view : View} (h : EveryHold P w)
    (hview : ∀ d, view.db.disk = some d → w.StoredHolds d.holdInvoices) :
    EveryHold P (w.restart env view) := by
  unfold World.restart
  split
  · exact h
  · next d hd =>
    have hdisk : ∀ d, view.db.disk = some d → ∀ k inv, d.holdInvoices.get? k = some inv → P inv :=
      fun d hd => h.stored _ (hview d hd)
    have hdoc : ∀ k inv, d.holdInvoices.get? k = some inv → P inv := by
      unfold Db.load at hd
      split at hd
      · cases hd
      · exact hdisk d hd
    refine ⟨hdoc, fun H hH k inv hget => ?_⟩
    rcases hH with (⟨d', hd' | hd', rfl⟩ | rfl) | ⟨v, hv, d', hd', rfl⟩
    · exact hdisk d' hd' k inv hget
    · exact hdisk d' hd' k inv hget
    · exact of_live hP hdoc hget
    · cases List.mem_singleton.mp hv
      exact hdisk d' hd' k inv hget

theorem reload (env : Env) (h : EveryHold P w) : EveryHold P (w.reload env) :=
  h.restart hP env fun d hd => .inl (.inl ⟨d, .inl hd, rfl⟩)

theorem crash (env : Env) (n : Nat) (h : EveryHold P w) : EveryHold P (w.crash env n) := by
  unfold World.crash
  split
  · exact h
  · next v hv =>
    refine h.restart hP env fun d hd => .inr ⟨v, ?_, d, hd, rfl⟩
    exact List.mem_of_getElem? hv

end EveryHold

/-! ## What counts as accepted -/

/-- No HTLC that counts as accepted, in the process or in the documents of the store, is one of `P`. -/
structure World.Without (w : World) (P : HtlcKey → Prop) : Prop where
  live : w.holdInvoices.Without P
  saved : ∀ d, w.Stores d → d.holdInvoices.Without P

namespace World.Without

variable {w : World} {P : HtlcKey → Prop}

theorem storedNow (h : w.Without P) {H : HoldInvoices} (hH : w.StoredNow H) : H.Without P := by
  rcases hH with ⟨d, hd, rfl⟩ | rfl
  · exact h.saved d hd
  · exact h.live.stored

/-- Only the table and the store matter. -/
theorem congr {w' : World} (h : w.Without P) (hholds : w'.holdInvoices = w.holdInvoices)
    (hdb : w'.db = w.db) : w'.Without P where
  live := hholds ▸ h.live
  saved d hd := by
    unfold World.Stores at hd
    rw [hdb] at hd
    exact h.saved d hd

theorem kept {w' : World} (h : w.Without P) (hk : Kept w w') : w'.Without P where
  live := hk.holdInvoices ▸ h.live
  saved d hd := h.storedNow (hk.now _ (.inl ⟨d, hd, rfl⟩))

/-- A change of the table that is recorded as `patch`. -/
theorem of_patch {w' : World} {patch : Doc → Option Doc} (h : w.Without P)
    (hlive : w'.holdInvoices.Without P) (hdb : w'.db = w.db.addPatch patch)
    (hpatch : ∀ d d', patch d = some d' → d.holdInvoices.Without P → d'.holdInvoices.Without P) :
    w'.Without P := by
  refine ⟨hlive, fun d hd => ?_⟩
  unfold World.Stores at hd
  rw [hdb] at hd
  rcases hd with hdisk | hqueued
  · exact h.saved d (.inl hdisk)
  · obtain ⟨d₀, hd₀, hpd⟩ := Option.bind_eq_some_iff.mp hqueued
    exact hpatch d₀ d hpd (h.saved d₀ (.inr hd₀))

theorem live_popHoldInvoice (k : Hex) (h : w.holdInvoices.Without P) :
    (w.popHoldInvoice k).holdInvoices.Without P := by
  unfold World.popHoldInvoice
  split
  · exact h.pop k
  · exact h

theorem live_setHoldInvoice {invoice : HoldInvoice} (h : w.holdInvoices.Without P)
    (hinv : ∀ κ, invoice.Holds κ → ¬ P κ) : (w.setHoldInvoice invoice).holdInvoices.Without P := by
  dsimp only [World.setHoldInvoice]
  split
  · exact h
  · exact h.set hinv

theorem popHoldInvoice (k : Hex) (h : w.Without P) : (w.popHoldInvoice k).Without P := by
  unfold World.popHoldInvoice
  split
  · refine h.of_patch (h.live.pop k) rfl fun d d' hd hold => ?_
    split at hd
    · cases hd
      exact hold.pop k
    · cases hd
  · exact h

theorem setHoldInvoice {invoice : HoldInvoice} (h : w.Without P)
    (hinv : ∀ κ, invoice.Holds κ → ¬ P κ) : (w.setHoldInvoice invoice).Without P := by
  dsimp only [World.setHoldInvoice]
  split
  · exact h
  · refine h.of_patch (h.live.set hinv) rfl fun d d' hd hold => ?_
    split at hd
    · cases hd
    · cases hd
      exact hold.set fun κ hκ => hinv κ (HoldInvoice.holds_stored.mp hκ)

end World.Without

/-! ## What holds of an invoice -/

section

variable (tracked : Prop) (target : HtlcKey → Option Bytes)

structure InvoiceOk (inv : HoldInvoice) : Prop where
  funded : inv.fundingStatus = .funded → inv.isFullyFunded = true
  callbacks : ∀ h ∈ inv.incomingHtlcs, ∀ r, h.requestCallback = some r → r.htlc.key = h.key
  members : tracked → ∀ h ∈ inv.incomingHtlcs, target h.key = some inv.paymentHash

variable {tracked target} {inv : HoldInvoice}

theorem InvoiceOk.fresh {inv : HoldInvoice} (hstatus : inv.fundingStatus ≠ .funded)
    (hhtlcs : inv.incomingHtlcs = ∅) : InvoiceOk tracked target inv where
  funded h := absurd h hstatus
  callbacks h hh := by
    rw [hhtlcs] at hh
    exact absurd hh (HtlcSet.notMem_empty h)
  members _ h hh := by
    rw [hhtlcs] at hh
    exact absurd hh (HtlcSet.notMem_empty h)

theorem InvoiceOk.toStored (inv : HoldInvoice) (h : InvoiceOk tracked target inv) :
    InvoiceOk tracked target inv.stored where
  funded hstatus := by
    rw [HoldInvoice.isFullyFunded_stored]
    exact h.funded hstatus
  callbacks a ha r hr := by
    obtain ⟨b, -, rfl⟩ := HoldInvoice.mem_stored.mp ha
    cases hr
  members ht a ha := by
    obtain ⟨b, hb, rfl⟩ := HoldInvoice.mem_stored.mp ha
    exact h.members ht b hb

/-- Settling an HTLC counts it as before. -/
theorem InvoiceOk.settle (h : InvoiceOk tracked target inv) (κ : HtlcKey) :
    InvoiceOk tracked target (inv.setHtlcState κ .settled) where
  funded hstatus := by
    have hfull : inv.isFullyFunded = true := h.funded hstatus
    refine HoldInvoice.isFullyFunded_mono hfull rfl ?_
    apply HtlcSet.msat_le_modify
    · exact fun _ => rfl
    · exact fun _ _ => rfl
  callbacks a ha r hr := by
    obtain ⟨b, hb, rfl⟩ := HoldInvoice.mem_setHtlcState.mp ha
    split at hr
    · next hk => rw [if_pos hk]; exact h.callbacks b hb r hr
    · next hk => rw [if_neg hk]; exact h.callbacks b hb r hr
  members ht a ha := by
    obtain ⟨b, hb, rfl⟩ := HoldInvoice.mem_setHtlcState.mp ha
    split
    · exact h.members ht b hb
    · exact h.members ht b hb

/-- Cancelling an HTLC is for invoices that are not funded. -/
theorem InvoiceOk.cancel (h : InvoiceOk tracked target inv) (hstatus : inv.fundingStatus ≠ .funded)
    (κ : HtlcKey) : InvoiceOk tracked target (inv.setHtlcState κ .cancelled) where
  funded hfunded := absurd hfunded hstatus
  callbacks a ha r hr := by
    obtain ⟨b, hb, rfl⟩ := HoldInvoice.mem_setHtlcState.mp ha
    split at hr
    · next hk => rw [if_pos hk]; exact h.callbacks b hb r hr
    · next hk => rw [if_neg hk]; exact h.callbacks b hb r hr
  members ht a ha := by
    obtain ⟨b, hb, rfl⟩ := HoldInvoice.mem_setHtlcState.mp ha
    split
    · exact h.members ht b hb
    · exact h.members ht b hb

/-- A replayed HTLC gets the new hook call as its callback. -/
theorem InvoiceOk.replay (h : InvoiceOk tracked target inv) {request : Request} :
    InvoiceOk tracked target (inv.setHtlcCallback request.htlc.key request) where
  funded hstatus := by
    have hfull : inv.isFullyFunded = true := h.funded hstatus
    refine HoldInvoice.isFullyFunded_mono hfull rfl ?_
    apply HtlcSet.msat_le_modify
    · exact fun _ => rfl
    · exact fun _ ha => ha
  callbacks a ha r hr := by
    obtain ⟨b, hb, rfl⟩ := HoldInvoice.mem_setHtlcCallback.mp ha
    split at hr
    · next hk =>
      cases hr
      rw [if_pos hk]
      exact hk.symm
    · next hk => rw [if_neg hk]; exact h.callbacks b hb r hr
  members ht a ha := by
    obtain ⟨b, hb, rfl⟩ := HoldInvoice.mem_setHtlcCallback.mp ha
    split
    · exact h.members ht b hb
    · exact h.members ht b hb

/-- A new HTLC joins the invoice it is for. -/
theorem InvoiceOk.add (h : InvoiceOk tracked target inv) {request : Request} {now : Nat}
    (hnew : inv.findHtlc request.htlc.key = none)
    (htarget : tracked → target request.htlc.key = some inv.paymentHash) :
    InvoiceOk tracked target (inv.addHtlc (Htlc.fromClnDict request.htlc request now)) where
  funded hstatus := by
    have hfull : inv.isFullyFunded = true := h.funded hstatus
    exact HoldInvoice.isFullyFunded_mono hfull rfl (HtlcSet.msat_le_add _ _ _)
  callbacks a ha r hr := by
    rcases (HoldInvoice.mem_addHtlc hnew).mp ha with ha | rfl
    · exact h.callbacks a ha r hr
    · cases hr; rfl
  members ht a ha := by
    rcases (HoldInvoice.mem_addHtlc hnew).mp ha with ha | rfl
    · exact h.members ht a ha
    · exact htarget ht

/-- A new HTLC that is turned down leaves the sum as it was. -/
theorem InvoiceOk.reject (h : InvoiceOk tracked target inv) {request : Request} {now : Nat}
    (hnew : inv.findHtlc request.htlc.key = none)
    (htarget : tracked → target request.htlc.key = some inv.paymentHash) :
    InvoiceOk tracked target
      ((inv.addHtlc (Htlc.fromClnDict request.htlc request now)).setHtlcState request.htlc.key
        .cancelled) where
  funded hstatus := by
    have hfull : inv.isFullyFunded = true := h.funded hstatus
    refine HoldInvoice.isFullyFunded_mono hfull rfl ?_
    apply HtlcSet.msat_le_modify_add
    · rfl
    · exact hnew
    · exact fun _ => rfl
  callbacks a ha r hr := by
    obtain ⟨b, hb, rfl⟩ := HoldInvoice.mem_setHtlcState.mp ha
    have hok := (h.add hnew htarget).callbacks b hb
    split at hr
    · next hk => rw [if_pos hk]; exact hok r hr
    · next hk => rw [if_neg hk]; exact hok r hr
  members ht a ha := by
    obtain ⟨b, hb, rfl⟩ := HoldInvoice.mem_setHtlcState.mp ha
    have hok := (h.add hnew htarget).members ht b hb
    split
    · exact hok
    · exact hok

theorem InvoiceOk.setFundingStatus (h : InvoiceOk tracked target inv) {st : InvoiceState}
    (hst : st = .funded → inv.isFullyFunded = true) :
    InvoiceOk tracked target (inv.setFundingStatus st) where
  funded := hst
  callbacks := h.callbacks
  members := h.members

theorem InvoiceOk.reorder (h : InvoiceOk tracked target inv) (order : List Htlc) :
    InvoiceOk tracked target (inv.reorderHtlcs order) where
  funded hstatus := by
    have hfull : inv.isFullyFunded = true := h.funded hstatus
    exact HoldInvoice.isFullyFunded_mono hfull rfl (le_of_eq (HtlcSet.msat_reorder _ _ _).symm)
  callbacks a ha := h.callbacks a (HtlcSet.mem_reorder.mp ha)
  members ht a ha := h.members ht a (HtlcSet.mem_reorder.mp ha)

end

end SubswapProvider
