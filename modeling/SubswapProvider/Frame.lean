import SubswapProvider.System

/-!
# What leaves the hold invoices alone

Most of the plugin is bookkeeping: it moves swaps, preimages, outgoing invoices and watchers around
and writes the store, and never touches a hold invoice or answers an HTLC. That is said here once.

* `Kept w w'` — the hold invoices and their callbacks are the same in `w'`, a restart of `w'` finds
  only hold invoices a restart of `w` could have found, and nothing was said to the outside.
* `Quiet w w'` — in addition the swaps of `w'` are swaps of `w`, unchanged.

Every invariant of the hold invoices is then kept by every function here (`Keeps.of_rel`).
-/

namespace SubswapProvider

open Deployment Effect

/-- A document of the store: it is in the datastore, or would be with the pending changes. -/
def World.Stores (w : World) (d : Doc) : Prop := w.db.disk = some d ∨ w.db.queued = some d

/-- The datastore has the hold invoices `H`, or would have them after one more write. -/
def World.StoredNow (w : World) (H : HoldInvoices) : Prop :=
  (∃ d, w.Stores d ∧ d.holdInvoices = H) ∨ w.holdInvoices.stored = H

/-- A restart could find the hold invoices `H`: they were in the datastore at some point, or would be
after one more write. -/
def World.StoredHolds (w : World) (H : HoldInvoices) : Prop :=
  w.StoredNow H ∨ ∃ v ∈ w.views, ∃ d, v.db.disk = some d ∧ d.holdInvoices = H

structure Kept (w w' : World) : Prop where
  holdInvoices : w'.holdInvoices = w.holdInvoices
  holdInvoiceCallbacks : w'.holdInvoiceCallbacks = w.holdInvoiceCallbacks
  now : ∀ H, w'.StoredNow H → w.StoredNow H
  trace : w'.trace = w.trace
  views : ∀ v ∈ w'.views, v ∈ w.views ∨
    (v.said = w.trace ∧ ∀ d, v.db.disk = some d → w.StoredNow d.holdInvoices)

structure SwapsKept (w w' : World) : Prop where
  swaps : ∀ k ref, w'.swaps.get? k = some ref → w.swaps.get? k = some ref
  heap : w'.heap = w.heap
  nextRef : w'.nextRef = w.nextRef
  pairs : w'.pairs = w.pairs

structure Quiet (w w' : World) : Prop extends Kept w w', SwapsKept w w'

theorem Kept.refl (w : World) : Kept w w where
  holdInvoices := rfl
  holdInvoiceCallbacks := rfl
  now _ h := h
  trace := rfl
  views _ h := .inl h

theorem Kept.trans {w w' w'' : World} (h : Kept w w') (h' : Kept w' w'') : Kept w w'' where
  holdInvoices := h'.holdInvoices.trans h.holdInvoices
  holdInvoiceCallbacks := h'.holdInvoiceCallbacks.trans h.holdInvoiceCallbacks
  now H hH := h.now H (h'.now H hH)
  trace := h'.trace.trans h.trace
  views v hv := by
    rcases h'.views v hv with hv | ⟨hsaid, hdisk⟩
    · exact h.views v hv
    · exact .inr ⟨hsaid.trans h.trace, fun d hd => h.now _ (hdisk d hd)⟩

/-- A restart finds no other hold invoices. -/
theorem Kept.stored {w w' : World} (h : Kept w w') (H : HoldInvoices) (hH : w'.StoredHolds H) :
    w.StoredHolds H := by
  rcases hH with hnow | ⟨v, hv, d, hd, rfl⟩
  · exact .inl (h.now H hnow)
  · rcases h.views v hv with hv | ⟨-, hdisk⟩
    · exact .inr ⟨v, hv, d, hd, rfl⟩
    · exact .inl (hdisk d hd)

theorem SwapsKept.refl (w : World) : SwapsKept w w where
  swaps _ _ h := h
  heap := rfl
  nextRef := rfl
  pairs := rfl

theorem SwapsKept.trans {w w' w'' : World} (h : SwapsKept w w') (h' : SwapsKept w' w'') :
    SwapsKept w w'' where
  swaps k ref hk := h.swaps k ref (h'.swaps k ref hk)
  heap := h'.heap.trans h.heap
  nextRef := h'.nextRef.trans h.nextRef
  pairs := h'.pairs.trans h.pairs

theorem Quiet.refl (w : World) : Quiet w w := ⟨Kept.refl w, SwapsKept.refl w⟩

theorem Quiet.trans {w w' w'' : World} (h : Quiet w w') (h' : Quiet w' w'') : Quiet w w'' :=
  ⟨h.toKept.trans h'.toKept, h.toSwapsKept.trans h'.toSwapsKept⟩

/-! ## The store -/

/-- A patch that leaves the hold invoices of the document alone. -/
def KeepsHolds (patch : Doc → Option Doc) : Prop :=
  ∀ d d', patch d = some d' → d'.holdInvoices = d.holdInvoices

theorem KeepsHolds.some_if {c : Doc → Bool} {f : Doc → Doc}
    (hf : ∀ d, (f d).holdInvoices = d.holdInvoices) :
    KeepsHolds fun d => if c d then some (f d) else none := by
  intro d d' h
  dsimp only at h
  split at h
  · cases h; exact hf d
  · cases h

theorem KeepsHolds.none_if {c : Doc → Bool} {f : Doc → Doc}
    (hf : ∀ d, (f d).holdInvoices = d.holdInvoices) :
    KeepsHolds fun d => if c d then none else some (f d) := by
  intro d d' h
  dsimp only at h
  split at h
  · cases h
  · cases h; exact hf d

/-- Recording such a patch brings no new hold invoices. -/
theorem World.StoredNow.of_addPatch {w w' : World} {patch : Doc → Option Doc} {H : HoldInvoices}
    (hp : KeepsHolds patch) (hdb : w'.db = w.db.addPatch patch)
    (hw : w'.holdInvoices = w.holdInvoices) (h : w'.StoredNow H) : w.StoredNow H := by
  rcases h with ⟨d, hd | hd, rfl⟩ | rfl
  · rw [hdb] at hd
    exact .inl ⟨d, .inl hd, rfl⟩
  · rw [hdb] at hd
    obtain ⟨d₀, hd₀, hpd⟩ := Option.bind_eq_some_iff.mp hd
    exact .inl ⟨d₀, .inr hd₀, (hp d₀ d hpd).symm⟩
  · rw [hw]
    exact .inr rfl

theorem Quiet.consolidate (w : World) : Quiet w w.consolidate where
  holdInvoices := rfl
  holdInvoiceCallbacks := rfl
  now H h := by
    rcases h with ⟨d, hd | hd, rfl⟩ | rfl
    · cases hd; exact .inr rfl
    · cases hd; exact .inr rfl
    · exact .inr rfl
  trace := rfl
  views v hv := by
    rcases List.mem_cons.mp hv with rfl | hv
    · refine .inr ⟨rfl, fun d hd => ?_⟩
      cases hd
      exact .inr rfl
    · exact .inl hv
  toSwapsKept := ⟨fun _ _ h => h, rfl, rfl, rfl⟩

theorem Quiet.append (w : World) : Quiet w w.append where
  holdInvoices := rfl
  holdInvoiceCallbacks := rfl
  now H h := by
    rcases h with ⟨d, hd | hd, rfl⟩ | h
    · exact .inl ⟨d, .inr hd, rfl⟩
    · exact .inl ⟨d, .inr hd, rfl⟩
    · exact .inr h
  trace := rfl
  views v hv := by
    rcases List.mem_cons.mp hv with rfl | hv
    · exact .inr ⟨rfl, fun d hd => .inl ⟨d, .inr hd, rfl⟩⟩
    · exact .inl hv
  toSwapsKept := ⟨fun _ _ h => h, rfl, rfl, rfl⟩

theorem quiet_dbWrite (env : Env) (w₀ : World) : Keeps (Quiet w₀) (dbWrite env) := by
  unfold dbWrite
  refine Keeps.get fun w => Keeps.bind (Keeps.modify fun s h => ?_) fun _ => ?_
  · exact h.trans ⟨⟨rfl, rfl, fun _ h => h, rfl, fun _ => .inl⟩,
      fun _ _ h => h, rfl, rfl, rfl⟩
  · refine Keeps.ite (Keeps.ite (Keeps.ite Keeps.throw ?_) Keeps.pure)
      (Keeps.ite (Keeps.ite Keeps.throw ?_) Keeps.pure)
    · exact Keeps.modify fun s h => h.trans (Quiet.consolidate s)
    · exact Keeps.modify fun s h => h.trans (Quiet.append s)

/-! ## Tables -/

theorem Quiet.popInvoice (k : Hex) (w : World) : Quiet w (w.popInvoice k) := by
  unfold World.popInvoice
  split
  · have hp := KeepsHolds.some_if (c := fun d => d.invoices.contains k)
      (f := fun d => { d with invoices := d.invoices.pop k }) fun _ => rfl
    exact ⟨⟨rfl, rfl, fun H => World.StoredNow.of_addPatch hp rfl rfl, rfl, fun _ => .inl⟩,
      fun _ _ h => h, rfl, rfl, rfl⟩
  · exact Quiet.refl w

theorem Quiet.setInvoice (k : Hex) (v : Invoice) (w : World) : Quiet w (w.setInvoice k v) := by
  unfold World.setInvoice
  split
  · exact Quiet.refl w
  · have hp := KeepsHolds.none_if (c := fun d => w.invoices.contains k && !d.invoices.contains k)
      (f := fun d => { d with invoices := d.invoices.set k v }) fun _ => rfl
    exact ⟨⟨rfl, rfl, fun H => World.StoredNow.of_addPatch hp rfl rfl, rfl, fun _ => .inl⟩,
      fun _ _ h => h, rfl, rfl, rfl⟩

theorem Quiet.popPreimage (k : Hex) (w : World) : Quiet w (w.popPreimage k) := by
  unfold World.popPreimage
  split
  · have hp := KeepsHolds.some_if (c := fun d => d.preimages.contains k)
      (f := fun d => { d with preimages := d.preimages.pop k }) fun _ => rfl
    exact ⟨⟨rfl, rfl, fun H => World.StoredNow.of_addPatch hp rfl rfl, rfl, fun _ => .inl⟩,
      fun _ _ h => h, rfl, rfl, rfl⟩
  · exact Quiet.refl w

theorem Quiet.setPreimage (k : Hex) (v : Bytes) (w : World) : Quiet w (w.setPreimage k v) := by
  unfold World.setPreimage
  split
  · exact Quiet.refl w
  · have hp := KeepsHolds.none_if (c := fun d => w.preimages.contains k && !d.preimages.contains k)
      (f := fun d => { d with preimages := d.preimages.set k v }) fun _ => rfl
    exact ⟨⟨rfl, rfl, fun H => World.StoredNow.of_addPatch hp rfl rfl, rfl, fun _ => .inl⟩,
      fun _ _ h => h, rfl, rfl, rfl⟩

theorem Quiet.popSwap (k : Hex) (w : World) : Quiet w (w.popSwap k) := by
  unfold World.popSwap
  split
  · have hp := KeepsHolds.some_if (c := fun d => d.swaps.contains k)
      (f := fun d => { d with swaps := d.swaps.pop k }) fun _ => rfl
    exact ⟨⟨rfl, rfl, fun H => World.StoredNow.of_addPatch hp rfl rfl, rfl, fun _ => .inl⟩,
      fun _ _ h => (Dict.get?_of_pop h).2, rfl, rfl, rfl⟩
  · exact Quiet.refl w

/-- Storing a swap adds to the swaps, and is otherwise as quiet. -/
theorem Kept.setSwap (k : Hex) (ref : SwapRef) (w : World) : Kept w (w.setSwap k ref) := by
  refine ⟨rfl, rfl, fun H => World.StoredNow.of_addPatch ?_ rfl rfl, rfl, fun _ => .inl⟩
  intro d d' h
  cases h; rfl

theorem Kept.allocSwap (swap : SwapData) (w : World) : Kept w (w.allocSwap swap) :=
  ⟨rfl, rfl, fun _ h => h, rfl, fun _ => .inl⟩

/-- So is assigning to one. -/
theorem Kept.assign (ref : SwapRef) (f : SwapData → SwapData) (w : World) :
    Kept w (w.assign ref f) := by
  dsimp only [World.assign]
  split
  · have hp := KeepsHolds.some_if
      (c := fun d => d.swaps.contains (hex (w.heap ref).paymentHash))
      (f := fun d => { d with swaps := d.swaps.modify (hex (w.heap ref).paymentHash) f }) fun _ => rfl
    exact ⟨rfl, rfl, fun H => World.StoredNow.of_addPatch hp rfl rfl, rfl, fun _ => .inl⟩
  · exact ⟨rfl, rfl, fun _ h => h, rfl, fun _ => .inl⟩

theorem Quiet.invoicesToPay (toPay : Option (Dict Hex Nat)) (w : World) :
    Quiet w { w with invoicesToPay := toPay } :=
  ⟨⟨rfl, rfl, fun _ h => h, rfl, fun _ => .inl⟩,
    fun _ _ h => h, rfl, rfl, rfl⟩

theorem Quiet.payTasks (tasks : List PayTask) (w : World) :
    Quiet w { w with payTasks := tasks } :=
  ⟨⟨rfl, rfl, fun _ h => h, rfl, fun _ => .inl⟩,
    fun _ _ h => h, rfl, rfl, rfl⟩

theorem Quiet.managed (managed : Bool) (w : World) : Quiet w { w with managed := managed } :=
  ⟨⟨rfl, rfl, fun _ h => h, rfl, fun _ => .inl⟩,
    fun _ _ h => h, rfl, rfl, rfl⟩

theorem Quiet.lnwatcherCallbacks (callbacks : Dict Address SwapRef) (w : World) :
    Quiet w { w with lnwatcherCallbacks := callbacks } :=
  ⟨⟨rfl, rfl, fun _ h => h, rfl, fun _ => .inl⟩,
    fun _ _ h => h, rfl, rfl, rfl⟩

/-! ## What an assignment changes -/

namespace World

variable (ref : SwapRef) (f : SwapData → SwapData) (w : World)

theorem assign_heap : (w.assign ref f).heap = Function.update w.heap ref (f (w.heap ref)) := by
  dsimp only [assign]
  split <;> rfl

@[simp] theorem assign_heap_self : (w.assign ref f).heap ref = f (w.heap ref) := by
  rw [assign_heap, Function.update_self]

@[simp] theorem assign_swaps : (w.assign ref f).swaps = w.swaps := by
  dsimp only [assign]
  split <;> rfl

@[simp] theorem assign_holdInvoices : (w.assign ref f).holdInvoices = w.holdInvoices := by
  dsimp only [assign]
  split <;> rfl

@[simp] theorem assign_holdInvoiceCallbacks :
    (w.assign ref f).holdInvoiceCallbacks = w.holdInvoiceCallbacks := by
  dsimp only [assign]
  split <;> rfl

@[simp] theorem assign_lnwatcherCallbacks :
    (w.assign ref f).lnwatcherCallbacks = w.lnwatcherCallbacks := by
  dsimp only [assign]
  split <;> rfl

@[simp] theorem assign_invoicesToPay : (w.assign ref f).invoicesToPay = w.invoicesToPay := by
  dsimp only [assign]
  split <;> rfl

@[simp] theorem assign_preimages : (w.assign ref f).preimages = w.preimages := by
  dsimp only [assign]
  split <;> rfl

@[simp] theorem assign_invoices : (w.assign ref f).invoices = w.invoices := by
  dsimp only [assign]
  split <;> rfl

@[simp] theorem assign_managed : (w.assign ref f).managed = w.managed := by
  dsimp only [assign]
  split <;> rfl

@[simp] theorem assign_nextRef : (w.assign ref f).nextRef = w.nextRef := by
  dsimp only [assign]
  split <;> rfl

@[simp] theorem assign_trace : (w.assign ref f).trace = w.trace := by
  dsimp only [assign]
  split <;> rfl

end World

/-! ## The functions -/

section Guards

variable {α β : Type} {P : World → Prop} {Q : α → World → Prop} {E : PyErr → World → Prop}

/-- `assert p; …` -/
theorem triple_pyAssert {p : Bool} {f : Unit → PyM α} (hE : ∀ s, P s → E .AssertionError s)
    (h : p = true → Triple P (f ()) Q E) : Triple P (pyAssert p >>= f) Q E := by
  cases p with
  | false => exact fun s hs => hE s hs
  | true => exact fun s hs => h rfl s hs

/-- `a = external(); …` -/
theorem triple_orRaise {e : PyErr} {o : Option β} {f : β → PyM α} (hE : ∀ s, P s → E e s)
    (h : ∀ b, o = some b → Triple P (f b) Q E) : Triple P (orRaise e o >>= f) Q E := by
  cases o with
  | none => exact fun s hs => hE s hs
  | some b => exact fun s hs => h b rfl s hs

/-- `if c: raise e; …` -/
theorem triple_raiseIf {c : Prop} [Decidable c] {e : PyErr} {f : Unit → PyM α}
    (hE : c → ∀ s, P s → E e s) (h : ¬ c → Triple P (f ()) Q E) :
    Triple P ((if c then throw e else pure ()) >>= f) Q E := by
  by_cases hc : c
  · rw [if_pos hc]; exact fun s hs => hE hc s hs
  · rw [if_neg hc]; exact fun s hs => h hc s hs

/-- `if not c: raise e; …` -/
theorem triple_raiseUnless {c : Prop} [Decidable c] {e : PyErr} {f : Unit → PyM α}
    (hE : ∀ s, P s → E e s) (h : c → Triple P (f ()) Q E) :
    Triple P ((if c then pure () else throw e) >>= f) Q E := by
  by_cases hc : c
  · rw [if_pos hc]; exact fun s hs => h hc s hs
  · rw [if_neg hc]; exact fun s hs => hE s hs

/-- `a = self._get_recv_amount(…); …` -/
theorem triple_getRecvAmount {send_amount : Int} {is_reverse : Bool} {f : Option Int → PyM α}
    (hE : ∀ s, P s → E .TypeError s)
    (h : ∀ p, Triple (fun s => P s ∧ s.pairs = some p) (f (p.recvAmount send_amount is_reverse))
      Q E) :
    Triple P (getRecvAmount send_amount is_reverse >>= f) Q E := by
  intro s hs
  unfold getRecvAmount
  cases hp : s.pairs with
  | none =>
    rw [bind_error (t := s) (e := .TypeError) (by rw [get_bind]; simp only [hp]; rfl)]
    exact hE s hs
  | some p =>
    rw [bind_ok (t := s) (b := p.recvAmount send_amount is_reverse)
      (by rw [get_bind]; simp only [hp]; rfl)]
    exact h p s ⟨hs, hp⟩

end Guards

theorem keeps_atStage {I : World → Prop} {stage : World → Bool} {p : PyM Unit} (h : Keeps I p) :
    Keeps I (atStage stage p) :=
  Keeps.get fun _ => Keeps.ite h Keeps.pure

theorem keeps_orRaise {I : World → Prop} {α : Type} (e : PyErr) (o : Option α) :
    Keeps I (orRaise e o) := by
  cases o with
  | none => exact Keeps.throw
  | some a => exact Keeps.pure

theorem keeps_createTransaction {I : World → Prop} (env : Env) (outputs : Multiset (Address × Int)) :
    Keeps I (createTransaction env outputs) :=
  Keeps.bind (keeps_orRaise _ _) fun _ => Keeps.bind (keeps_orRaise _ _) fun _ => Keeps.pure

theorem keeps_pyAssert {I : World → Prop} (p : Bool) : Keeps I (pyAssert p) :=
  Keeps.ite Keeps.pure Keeps.throw

theorem keeps_liftExcept {I : World → Prop} {α : Type} (x : Except PyErr α) :
    Keeps I (liftExcept x) := by
  cases x with
  | error e => exact Keeps.throw
  | ok a => exact Keeps.pure

/-! ## The refund and the claim

What `_claim_swap` does last keeps every invariant that lets `spending_txid` change and transactions
be broadcast. -/

section Broadcast

variable [Deployment] {I : World → Prop} {ref : SwapRef} (env : Env) (txin : PartialTxInput)

theorem keeps_broadcastClaim
    (hassign : ∀ t, Keeps I
      (modify (World.assign ref fun swap => { swap with spendingTxid := t }) : PyM PUnit))
    (hemit : ∀ tx, Keeps I (emit (.broadcastRawTransaction tx))) (conf : Int) :
    Keeps I (broadcastClaim env ref txin conf) := by
  unfold broadcastClaim
  refine Keeps.get fun w => Keeps.bind ?_ fun created => ?_
  · dsimp only [tryCreateClaimTx, createAndSignClaimTx]
    refine Keeps.tryCatch ?_ fun e => Keeps.ite Keeps.pure Keeps.throw
    exact Keeps.bind (Keeps.bind (Keeps.ite Keeps.throw Keeps.pure) fun _ =>
      Keeps.bind (keeps_pyAssert _) fun _ => Keeps.bind (keeps_orRaise _ _) fun _ => Keeps.pure)
      fun _ => Keeps.pure
  · split
    · exact Keeps.pure
    · exact Keeps.bind (hassign _) fun _ =>
        Keeps.ite (Keeps.bind (hemit _) fun _ => Keeps.ite Keeps.pure Keeps.throw) Keeps.pure

theorem keeps_takeRefund
    (hassign : ∀ t, Keeps I
      (modify (World.assign ref fun swap => { swap with spendingTxid := t }) : PyM PUnit))
    (hemit : ∀ tx, Keeps I (emit (.broadcastRawTransaction tx))) (remaining_time conf : Int)
    (outcome : SpendOutcome) : Keeps I (takeRefund env ref txin remaining_time conf outcome) := by
  cases outcome with
  | finished => exact Keeps.pure
  | refunded => exact Keeps.pure
  | goOn should_bump_fee =>
    exact Keeps.get fun _ => Keeps.ite Keeps.pure (Keeps.ite Keeps.pure
      (Keeps.ite Keeps.pure (keeps_broadcastClaim env txin hassign hemit conf)))

end Broadcast

section Functions

variable (env : Env) (w₀ : World)

theorem quiet_deleteInvoice (k : Hex) (write_db : Bool) :
    Keeps (Quiet w₀) (deleteInvoice env k write_db) := by
  unfold deleteInvoice
  refine Keeps.get fun w => Keeps.ite (Keeps.bind ?_ fun _ => ?_) Keeps.pure
  · exact Keeps.modify fun s h => h.trans (Quiet.popInvoice k s)
  · exact Keeps.ite (quiet_dbWrite env w₀) Keeps.pure

theorem quiet_deletePaymentInfo (payment_hash : Option Bytes) (write_db : Bool) :
    Keeps (Quiet w₀) (deletePaymentInfo env payment_hash write_db) := by
  unfold deletePaymentInfo
  refine Keeps.get fun w => ?_
  cases payment_hash with
  | none => exact Keeps.pure
  | some h =>
    refine Keeps.ite (Keeps.bind ?_ fun _ => ?_) Keeps.pure
    · exact Keeps.modify fun s hs => hs.trans (Quiet.popPreimage (hex h) s)
    · exact Keeps.ite (quiet_dbWrite env w₀) Keeps.pure

theorem quiet_savePreimage [Deployment] (payment_hash preimage : Bytes) :
    Keeps (Quiet w₀) (savePreimage env payment_hash preimage) := by
  unfold savePreimage
  refine Keeps.ite Keeps.throw (Keeps.bind ?_ fun _ => quiet_dbWrite env w₀)
  exact Keeps.modify fun s hs => hs.trans (Quiet.setPreimage _ _ s)

theorem quiet_createPaymentInfo [Deployment] : Keeps (Quiet w₀) (createPaymentInfo env) :=
  Keeps.bind (quiet_savePreimage env w₀ _ _) fun _ => Keeps.pure

theorem quiet_saveInvoice (invoice : Invoice) :
    Keeps (Quiet w₀) (saveInvoice env invoice) := by
  refine Keeps.bind ?_ fun _ => quiet_dbWrite env w₀
  exact Keeps.modify fun s hs => hs.trans (Quiet.setInvoice _ _ s)

theorem quiet_popInvoiceToPay (k : Hex) : Keeps (Quiet w₀) (popInvoiceToPay k) := by
  unfold popInvoiceToPay
  refine Keeps.get fun w => ?_
  split
  · exact Keeps.throw
  · exact Keeps.modify fun s hs => hs.trans (Quiet.invoicesToPay _ s)

theorem quiet_setInvoiceToPay (k : Hex) (not_before : Nat) :
    Keeps (Quiet w₀) (setInvoiceToPay k not_before) := by
  unfold setInvoiceToPay
  refine Keeps.get fun w => ?_
  split
  · exact Keeps.throw
  · exact Keeps.modify fun s hs => hs.trans (Quiet.invoicesToPay _ s)

theorem quiet_removeCallback (address : Address) : Keeps (Quiet w₀) (removeCallback address) :=
  Keeps.modify fun s hs => hs.trans (Quiet.lnwatcherCallbacks _ s)

theorem quiet_addLnwatcherCallback (ref : SwapRef) :
    Keeps (Quiet w₀) (addLnwatcherCallback ref) :=
  Keeps.modify fun s hs => hs.trans (Quiet.lnwatcherCallbacks _ s)

theorem quiet_popSwapOrRaise (k : Hex) : Keeps (Quiet w₀) (popSwapOrRaise k) := by
  unfold popSwapOrRaise
  refine Keeps.get fun w => Keeps.ite ?_ Keeps.throw
  exact Keeps.modify fun s hs => hs.trans (Quiet.popSwap k s)

/-- **`_fail_swap` touches no hold invoice.** The test that guards its first branch looks for bytes
in a table keyed by text. -/
theorem quiet_failSwap (ref : SwapRef) : Keeps (Quiet w₀) (failSwap env ref) := by
  unfold failSwap
  refine Keeps.get fun w => Keeps.bind ?_ fun _ => Keeps.bind ?_ fun _ => Keeps.bind ?_ fun _ => ?_
  · have hbranch : (!(w.heap ref).isReverse &&
        (PyKey.bytes (w.heap ref).paymentHash).isIn w.holdInvoiceCallbacks) = false :=
      Bool.and_false _
    simp only [hbranch, Bool.false_eq_true, if_false]
    exact Keeps.bind (quiet_deleteInvoice env w₀ _ _) fun _ => quiet_popInvoiceToPay w₀ _
  · exact quiet_removeCallback w₀ _
  · exact Keeps.ite (quiet_popSwapOrRaise w₀ _) Keeps.pure
  · exact quiet_dbWrite env w₀

theorem quiet_deleteFinishedReverseSwap (ref : SwapRef) :
    Keeps (Quiet w₀) (deleteFinishedReverseSwap env ref) := by
  unfold deleteFinishedReverseSwap
  refine Keeps.get fun w => Keeps.bind (quiet_deleteInvoice env w₀ _ _) fun _ =>
    Keeps.bind (quiet_removeCallback w₀ _) fun _ =>
    Keeps.bind (quiet_popInvoiceToPay w₀ _) fun _ =>
    Keeps.bind (Keeps.ite ?_ Keeps.pure) fun _ => quiet_dbWrite env w₀
  exact Keeps.modify fun s hs => hs.trans (Quiet.popSwap _ s)

theorem quiet_failSwapOf (key : Hex) : Keeps (Quiet w₀) (failSwapOf env key) := by
  unfold failSwapOf
  refine Keeps.get fun w => ?_
  split
  · exact Keeps.pure
  · exact quiet_failSwap env w₀ _

theorem quiet_paidLnInvoice (key : Hex) (invoice : Invoice) (result : PayResult) :
    Keeps (Quiet w₀) (paidLnInvoice env key invoice result) := by
  cases result with
  | raised => exact quiet_failSwapOf env w₀ key
  | failed => exact Keeps.ite (quiet_failSwapOf env w₀ key) (quiet_setInvoiceToPay w₀ _ _)
  | paid =>
    exact Keeps.bind (quiet_deleteInvoice env w₀ _ _) fun _ => quiet_popInvoiceToPay w₀ _

theorem quiet_payPendingLnInvoices : Keeps (Quiet w₀) (payPendingLnInvoices env) :=
  Keeps.get fun _ => Keeps.modify fun s hs => hs.trans (Quiet.payTasks _ s)

/-- What lets tasks come and go and `pay_invoice` be called is kept by every task. -/
theorem keeps_payTaskStep {I : World → Prop} (hquiet : ∀ w w', Quiet w w' → I w → I w')
    (hemit : ∀ key swap stored, Keeps I (emit (.payInvoice key swap stored))) (n : Nat)
    (result : PayResult) : Keeps I (payTaskStep env n result) := by
  have hkeeps : ∀ {p : PyM Unit}, (∀ w₀, Keeps (Quiet w₀) p) → Keeps I p :=
    fun h => Keeps.of_rel h Quiet.refl hquiet
  unfold payTaskStep
  refine Keeps.get fun w => ?_
  split
  · exact Keeps.pure
  · refine Keeps.bind (hkeeps fun w₀ => Keeps.modify fun s hs => hs.trans (Quiet.payTasks _ s))
      fun _ => ?_
    split
    · unfold payPendingLnInvoice
      refine Keeps.bind (hkeeps fun w₀ => quiet_setInvoiceToPay w₀ _ _) fun _ =>
        Keeps.get fun w => ?_
      split
      · exact hkeeps fun w₀ => quiet_failSwapOf env w₀ _
      · exact Keeps.bind (hkeeps fun w₀ => Keeps.modify fun s hs => hs.trans (Quiet.payTasks _ s))
          fun _ => hemit _ _ _
    · exact hkeeps fun w₀ => quiet_paidLnInvoice env w₀ _ _ _

theorem quiet_registerAddress (address : Address) :
    Keeps (Quiet w₀) (registerAddress env address) :=
  Keeps.ite Keeps.pure Keeps.throw

theorem quiet_serverAddSwapInvoice [Deployment] (invoice : Option Invoice) :
    Keeps (Quiet w₀) (serverAddSwapInvoice env invoice) := by
  unfold serverAddSwapInvoice
  refine Keeps.bind (keeps_orRaise _ _) fun invoice => Keeps.get fun w => ?_
  split
  · exact Keeps.throw
  · exact Keeps.bind (keeps_orRaise _ _) fun amount =>
      Keeps.bind (keeps_pyAssert _) fun _ =>
      Keeps.bind (quiet_saveInvoice env w₀ invoice) fun _ =>
      Keeps.bind (keeps_orRaise _ _) fun preimage =>
      Keeps.bind (keeps_pyAssert _) fun _ =>
      Keeps.bind (keeps_pyAssert _) fun _ => quiet_setInvoiceToPay w₀ _ _

end Functions

/-! ## What hold invoices leave alone

The other way round: `CLNLightning` knows nothing of the swaps. -/

/-- The data of the swap manager are the same. -/
structure SwapsSame (w w' : World) : Prop where
  swaps : w'.swaps = w.swaps
  heap : w'.heap = w.heap
  nextRef : w'.nextRef = w.nextRef
  lnwatcherCallbacks : w'.lnwatcherCallbacks = w.lnwatcherCallbacks
  invoicesToPay : w'.invoicesToPay = w.invoicesToPay
  pairs : w'.pairs = w.pairs

theorem SwapsSame.refl (w : World) : SwapsSame w w := ⟨rfl, rfl, rfl, rfl, rfl, rfl⟩

theorem SwapsSame.trans {w w' w'' : World} (h : SwapsSame w w') (h' : SwapsSame w' w'') :
    SwapsSame w w'' where
  swaps := h'.swaps.trans h.swaps
  heap := h'.heap.trans h.heap
  nextRef := h'.nextRef.trans h.nextRef
  lnwatcherCallbacks := h'.lnwatcherCallbacks.trans h.lnwatcherCallbacks
  invoicesToPay := h'.invoicesToPay.trans h.invoicesToPay
  pairs := h'.pairs.trans h.pairs

/-- An update of something else. -/
theorem SwapsSame.modify {w₀ : World} {f : World → World} (hf : ∀ w, SwapsSame w (f w)) :
    Keeps (SwapsSame w₀) (modify f : PyM PUnit) :=
  Keeps.modify fun s hs => hs.trans (hf s)

theorem SwapsSame.setHoldInvoice (invoice : HoldInvoice) (w : World) :
    SwapsSame w (w.setHoldInvoice invoice) := by
  dsimp only [World.setHoldInvoice]
  split
  · exact SwapsSame.refl w
  · exact ⟨rfl, rfl, rfl, rfl, rfl, rfl⟩

theorem SwapsSame.popHoldInvoice (k : Hex) (w : World) : SwapsSame w (w.popHoldInvoice k) := by
  unfold World.popHoldInvoice
  split
  · exact ⟨rfl, rfl, rfl, rfl, rfl, rfl⟩
  · exact SwapsSame.refl w

theorem SwapsSame.setPreimage (k : Hex) (v : Bytes) (w : World) :
    SwapsSame w (w.setPreimage k v) := by
  unfold World.setPreimage
  split
  · exact SwapsSame.refl w
  · exact ⟨rfl, rfl, rfl, rfl, rfl, rfl⟩

theorem SwapsSame.popInvoice (k : Hex) (w : World) : SwapsSame w (w.popInvoice k) := by
  unfold World.popInvoice
  split
  · exact ⟨rfl, rfl, rfl, rfl, rfl, rfl⟩
  · exact SwapsSame.refl w

theorem SwapsSame.popPreimage (k : Hex) (w : World) : SwapsSame w (w.popPreimage k) := by
  unfold World.popPreimage
  split
  · exact ⟨rfl, rfl, rfl, rfl, rfl, rfl⟩
  · exact SwapsSame.refl w

section Functions

variable (env : Env) (w₀ : World)

theorem same_dbWrite : Keeps (SwapsSame w₀) (dbWrite env) := by
  unfold dbWrite
  refine Keeps.get fun w => Keeps.bind (SwapsSame.modify fun _ => ⟨rfl, rfl, rfl, rfl, rfl, rfl⟩)
    fun _ => ?_
  exact Keeps.ite
    (Keeps.ite (Keeps.ite Keeps.throw (SwapsSame.modify fun _ => ⟨rfl, rfl, rfl, rfl, rfl, rfl⟩))
      Keeps.pure)
    (Keeps.ite (Keeps.ite Keeps.throw (SwapsSame.modify fun _ => ⟨rfl, rfl, rfl, rfl, rfl, rfl⟩))
      Keeps.pure)

theorem same_emit (e : Event) : Keeps (SwapsSame w₀) (emit e) :=
  SwapsSame.modify fun _ => ⟨rfl, rfl, rfl, rfl, rfl, rfl⟩

theorem same_mutHoldInvoice (k : Hex) (f : HoldInvoice → HoldInvoice)
    (hf : ∀ inv, (f inv).paymentHash = inv.paymentHash) :
    Keeps (SwapsSame w₀) (modify (World.mutHoldInvoice k f hf) : PyM PUnit) :=
  SwapsSame.modify fun _ => ⟨rfl, rfl, rfl, rfl, rfl, rfl⟩

theorem same_setResult (request : Request) (res : HookResult) :
    Keeps (SwapsSame w₀) (setResult request res) :=
  Keeps.get fun _ => Keeps.ite (Keeps.bind (same_emit w₀ _) fun _ => Keeps.throw) (same_emit w₀ _)

theorem same_resolveHtlc (k : Hex) (htlc : Htlc) (st : HtlcState) (res : HookResult) :
    Keeps (SwapsSame w₀) (resolveHtlc k htlc st res) := by
  unfold resolveHtlc
  refine Keeps.ite ?_ Keeps.throw
  split
  · exact Keeps.throw
  · exact Keeps.bind (same_mutHoldInvoice w₀ _ _ _) fun _ => same_setResult w₀ _ _

theorem same_forAccepted (invoice : HoldInvoice) {f : Htlc → PyM Unit}
    (hf : ∀ h, Keeps (SwapsSame w₀) (f h)) : Keeps (SwapsSame w₀) (forAccepted invoice f) :=
  Keeps.forM fun h _ => Keeps.ite (hf h) Keeps.pure

theorem same_cancelAllHtlcs (invoice : HoldInvoice) :
    Keeps (SwapsSame w₀) (cancelAllHtlcs invoice) :=
  Keeps.bind (same_forAccepted w₀ invoice fun h => same_resolveHtlc w₀ _ h _ _)
    fun _ => same_mutHoldInvoice w₀ _ _ _

theorem same_settleInvoice [Deployment] (invoice : HoldInvoice) (preimage : Option Bytes) :
    Keeps (SwapsSame w₀) (settleInvoice invoice preimage) := by
  unfold settleInvoice
  split
  · exact Keeps.throw
  · exact Keeps.bind (keeps_pyAssert _) fun _ =>
      Keeps.bind (Keeps.ite Keeps.pure Keeps.throw) fun _ =>
      Keeps.bind (same_forAccepted w₀ invoice fun h => same_resolveHtlc w₀ _ h _ _) fun _ =>
      Keeps.bind (same_mutHoldInvoice w₀ _ _ _) fun _ => same_emit w₀ _

theorem same_createPaymentInfo [Deployment] : Keeps (SwapsSame w₀) (createPaymentInfo env) := by
  unfold createPaymentInfo savePreimage
  exact Keeps.bind (Keeps.ite Keeps.throw (Keeps.bind
    (SwapsSame.modify fun w => SwapsSame.setPreimage _ _ w) fun _ => same_dbWrite env w₀))
    fun _ => Keeps.pure

theorem same_deleteInvoice (k : Hex) (write_db : Bool) :
    Keeps (SwapsSame w₀) (deleteInvoice env k write_db) := by
  unfold deleteInvoice
  exact Keeps.get fun w => Keeps.ite (Keeps.bind (SwapsSame.modify fun w => SwapsSame.popInvoice _ w)
    fun _ => Keeps.ite (same_dbWrite env w₀) Keeps.pure) Keeps.pure

theorem same_deletePaymentInfo (payment_hash : Option Bytes) (write_db : Bool) :
    Keeps (SwapsSame w₀) (deletePaymentInfo env payment_hash write_db) := by
  unfold deletePaymentInfo
  refine Keeps.get fun w => ?_
  cases payment_hash with
  | none => exact Keeps.pure
  | some h =>
    exact Keeps.ite (Keeps.bind (SwapsSame.modify fun w => SwapsSame.popPreimage _ w)
      fun _ => Keeps.ite (same_dbWrite env w₀) Keeps.pure) Keeps.pure

theorem keeps_getPreimage [Deployment] {I : World → Prop} (payment_hash : Bytes) :
    Keeps I (getPreimage payment_hash) := by
  unfold getPreimage
  refine Keeps.bind (keeps_pyAssert _) fun _ => Keeps.get fun w => ?_
  split
  · exact Keeps.pure
  · exact Keeps.ite Keeps.throw Keeps.pure

theorem same_saveHoldInvoice (invoice : HoldInvoice) :
    Keeps (SwapsSame w₀) (saveHoldInvoice env invoice) :=
  Keeps.bind (SwapsSame.modify fun w => SwapsSame.setHoldInvoice _ w) fun _ => same_dbWrite env w₀

theorem same_unregister (k : Hex) : Keeps (SwapsSame w₀) (unregisterHoldInvoiceCallback k) :=
  SwapsSame.modify fun _ => ⟨rfl, rfl, rfl, rfl, rfl, rfl⟩

theorem same_deleteHoldInvoice (k : Hex) (write_db : Bool) :
    Keeps (SwapsSame w₀) (deleteHoldInvoice env k write_db) :=
  Keeps.bind (same_unregister w₀ k) fun _ => Keeps.get fun _ =>
    Keeps.ite (Keeps.bind (SwapsSame.modify fun w => SwapsSame.popHoldInvoice _ w)
      fun _ => Keeps.ite (same_dbWrite env w₀) Keeps.pure) Keeps.pure

theorem same_updateInvoice (payment_hash : Bytes) :
    Keeps (SwapsSame w₀) (updateInvoice env payment_hash) := by
  unfold updateInvoice
  refine Keeps.get fun w => ?_
  split
  · exact Keeps.throw
  · exact Keeps.bind (SwapsSame.modify fun w => SwapsSame.popHoldInvoice _ w) fun _ =>
      Keeps.bind (SwapsSame.modify fun w => SwapsSame.setHoldInvoice _ w) fun _ =>
      same_dbWrite env w₀

theorem same_b11invoiceFromHash [Deployment] (payment_hash : Bytes) (amount_msat : Int)
    (message : String) (expiry : Nat) :
    Keeps (SwapsSame w₀) (b11invoiceFromHash env payment_hash amount_msat message expiry) := by
  unfold b11invoiceFromHash
  exact Keeps.bind (keeps_pyAssert _) fun _ =>
    Keeps.bind (Keeps.ite Keeps.pure Keeps.throw) fun _ =>
    Keeps.bind (keeps_orRaise _ _) fun _ =>
    Keeps.bind (Keeps.ite Keeps.throw Keeps.pure) fun _ =>
    Keeps.bind (keeps_orRaise _ _) fun _ =>
    Keeps.bind (same_saveHoldInvoice env w₀ _) fun _ => Keeps.pure

theorem same_bundlePayments (swap_invoice prepay_invoice : Bytes) :
    Keeps (SwapsSame w₀) (bundlePayments env swap_invoice prepay_invoice) := by
  unfold bundlePayments
  refine Keeps.get fun w => ?_
  split
  · exact Keeps.throw
  · exact Keeps.bind (SwapsSame.modify fun w => SwapsSame.popHoldInvoice _ w) fun _ =>
      Keeps.bind (Keeps.ite Keeps.throw Keeps.pure) fun _ => same_saveHoldInvoice env w₀ _

theorem same_handleHtlc (target_invoice : HoldInvoice) (payment_secret : Option Bytes)
    (request : Request) :
    Keeps (SwapsSame w₀) (handleHtlc env target_invoice payment_secret request) := by
  dsimp only [handleHtlc]
  split
  · exact Keeps.bind (same_mutHoldInvoice w₀ _ _ _) fun _ => Keeps.pure
  · refine Keeps.bind (same_mutHoldInvoice w₀ _ _ _) fun _ => ?_
    split
    · exact Keeps.throw
    · exact Keeps.bind (same_resolveHtlc w₀ _ _ _ _) fun _ => Keeps.pure
    · exact Keeps.ite (Keeps.bind (same_mutHoldInvoice w₀ _ _ _) fun _ =>
        Keeps.bind (same_emit w₀ _) fun _ => Keeps.pure) Keeps.pure

theorem same_pluginHtlcAcceptedHook (forward : Bool) (payment_secret : Option Bytes)
    (request : Request) :
    Keeps (SwapsSame w₀) (pluginHtlcAcceptedHook env forward payment_secret request) := by
  unfold pluginHtlcAcceptedHook
  refine Keeps.ite (same_setResult w₀ _ _) (Keeps.get fun w => ?_)
  split
  · exact same_setResult w₀ _ _
  · exact Keeps.tryCatch (Keeps.bind (same_handleHtlc env w₀ _ _ _) fun _ =>
      Keeps.ite (same_updateInvoice env w₀ _) Keeps.pure) fun _ => same_setResult w₀ _ _

theorem same_checkInvoiceExpiry (invoice : Option HoldInvoice) :
    Keeps (SwapsSame w₀) (checkInvoiceExpiry env invoice) := by
  unfold checkInvoiceExpiry
  split
  · exact Keeps.pure
  · exact Keeps.ite (Keeps.bind (same_cancelAllHtlcs w₀ _) fun _ => Keeps.get fun _ =>
      Keeps.bind (Keeps.ite Keeps.throw Keeps.pure) fun _ =>
      Keeps.bind (same_deleteHoldInvoice env w₀ _ _) fun _ => Keeps.pure) Keeps.pure

theorem same_monitorExpiries : Keeps (SwapsSame w₀) (monitorExpiries env) :=
  Keeps.get fun _ => Keeps.tryCatch
    (Keeps.forM fun _ _ => Keeps.get fun _ =>
      Keeps.bind (same_checkInvoiceExpiry env w₀ _) fun _ => Keeps.ite Keeps.throw Keeps.pure)
    fun _ => Keeps.pure

end Functions

end SubswapProvider
