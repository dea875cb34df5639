import SubswapProvider.Moves

/-!
# Every step is made of moves

One lemma for each function of the plugin. Where a move asks for something to be known, the lemma
carries it from where the function reads it to where the move is made.
-/

namespace SubswapProvider

open Deployment Effect

/-! ## Reading and checking -/

section Checks

variable {α β : Type} {R : World → World → Prop} {P : World → Prop} {Q : α → World → Prop}

theorem walks_pyAssert {p : Bool} {f : Unit → PyM α} (h : p = true → Walks R P (f ()) Q) :
    Walks R P (pyAssert p >>= f) Q :=
  fun s₀ => triple_pyAssert (fun _ hs => hs.1) fun hp => h hp s₀

theorem walks_orRaise {e : PyErr} {o : Option β} {f : β → PyM α}
    (h : ∀ b, o = some b → Walks R P (f b) Q) : Walks R P (orRaise e o >>= f) Q :=
  fun s₀ => triple_orRaise (fun _ hs => hs.1) fun b hb => h b hb s₀

theorem walks_raiseIf {c : Prop} [Decidable c] {e : PyErr} {f : Unit → PyM α}
    (h : ¬ c → Walks R P (f ()) Q) : Walks R P ((if c then throw e else pure ()) >>= f) Q :=
  fun s₀ => triple_raiseIf (fun _ _ hs => hs.1) fun hc => h hc s₀

theorem walks_raiseUnless {c : Prop} [Decidable c] {e : PyErr} {f : Unit → PyM α}
    (h : c → Walks R P (f ()) Q) : Walks R P ((if c then pure () else throw e) >>= f) Q :=
  fun s₀ => triple_raiseUnless (fun _ hs => hs.1) fun hc => h hc s₀

theorem moves_pyAssert (p : Bool) : Moves R (pyAssert p) := Moves.ite Moves.pure Moves.throw

theorem moves_liftExcept (x : Except PyErr α) : Moves R (liftExcept x) := by
  cases x with
  | error e => exact Moves.throw
  | ok a => exact Moves.pure

end Checks

section

variable [Deployment] {a : Action} {w₀ : World}

/-! ## The store -/

theorem moves_dbWrite (env : Env) : Moves (Move a w₀) (dbWrite env) := by
  unfold dbWrite
  refine Moves.get fun w => Moves.bind (Moves.modify fun s => Move.count s _) fun _ => ?_
  refine Moves.ite (Moves.ite (Moves.ite Moves.throw ?_) Moves.pure)
    (Moves.ite (Moves.ite Moves.throw ?_) Moves.pure)
  · exact Moves.modify Move.consolidate
  · exact Moves.modify Move.append

omit [Deployment] in
/-- After a write that goes through there is nothing to write. -/
theorem clean_dbWrite (env : Env) :
    Triple (fun _ => True) (dbWrite env) (fun _ w => w.db.Clean) fun _ _ => True := by
  unfold dbWrite
  refine Triple.getBind fun w _ => Triple.modifyBind
    (R := fun s => s.db.pending = w.db.pending ∧ s.db.modified = w.db.modified)
    (fun s hs => hs ▸ ⟨rfl, rfl⟩) ?_
  split
  · split
    · split
      · exact Triple.throw fun _ _ => trivial
      · exact Triple.modify fun _ _ => .inl rfl
    · next hmodified => exact Triple.pure fun s hs => .inr (by simpa [hs.2] using hmodified)
  · split
    · split
      · exact Triple.throw fun _ _ => trivial
      · exact Triple.modify fun _ _ => .inl rfl
    · next hpending => exact Triple.pure fun s hs => .inl (by simpa [hs.1] using hpending)

theorem moves_writeIf (env : Env) (write_db : Bool) :
    Moves (Move a w₀) (if write_db then dbWrite env else pure ()) :=
  Moves.ite (moves_dbWrite env) Moves.pure

/-! ## Answers -/

omit [Deployment] in
theorem setResult_run (request : Request) (res : HookResult) (w : World) :
    setResult request res w = if w.Answered request then .error .ValueError (w.answered request res)
      else .ok () (w.answered request res) := by
  unfold setResult World.answered
  rw [get_bind]
  by_cases h : w.Answered request
  · rw [if_pos h, if_pos h, if_pos h]
    rfl
  · rw [if_neg h, if_neg h, if_neg h]
    rfl

section

variable {R : World → World → Prop} {P : World → Prop} {request : Request} {res : HookResult}
variable {Q : Unit → World → Prop}

omit [Deployment] in
theorem walks_setResult
    (h : ∀ s, P s → R s (s.answered request res) ∧ Q () (s.answered request res)) :
    Walks R P (setResult request res) Q := by
  intro s₀ s hs
  obtain ⟨hmove, hpost⟩ := h s hs.2
  rw [setResult_run]
  split
  · next heq => split at heq <;> cases heq; exact ⟨hs.1.tail hmove, hpost⟩
  · next heq => split at heq <;> cases heq; exact hs.1.tail hmove

omit [Deployment] in
/-- The change of the state and the answer are one move. -/
theorem walks_resolveHtlc {k : Hex} {htlc : Htlc} {st : HtlcState}
    (h : ∀ s request, P s → htlc.state = .accepted → htlc.requestCallback = some request →
      R s ((s.mutHoldInvoice k (·.setHtlcState htlc.key st) fun _ => rfl).answered request res) ∧
      Q () ((s.mutHoldInvoice k (·.setHtlcState htlc.key st) fun _ => rfl).answered request res)) :
    Walks R P (resolveHtlc k htlc st res) Q := by
  unfold resolveHtlc
  refine Walks.ite (fun hstate => ?_) fun _ => Walks.throw
  split
  · exact Walks.throw
  · next request hrequest =>
    intro s₀ s hs
    obtain ⟨hmove, hpost⟩ := h s request hs.2 hstate hrequest
    rw [modify_bind, setResult_run]
    split
    · next heq => split at heq <;> cases heq; exact ⟨hs.1.tail hmove, hpost⟩
    · next heq => split at heq <;> cases heq; exact hs.1.tail hmove

end

/-! ## What an answer leaves alone -/

namespace World

variable (request : Request) (res : HookResult) (w : World)

omit [Deployment] in
/-- An answer changes the log and the points of the process, nothing else. -/
theorem answered_eq : ∃ e, w.answered request res = w.say e := by
  unfold answered
  split
  · exact ⟨_, rfl⟩
  · exact ⟨_, rfl⟩

omit [Deployment] in
@[simp] theorem answered_holdInvoices : (w.answered request res).holdInvoices = w.holdInvoices := by
  obtain ⟨e, he⟩ := w.answered_eq request res
  rw [he]; rfl

omit [Deployment] in
@[simp] theorem answered_heap : (w.answered request res).heap = w.heap := by
  obtain ⟨e, he⟩ := w.answered_eq request res
  rw [he]; rfl

end World

omit [Deployment] in
theorem World.get?_mutHoldInvoice {w : World} {k : Hex} {f : HoldInvoice → HoldInvoice}
    {hf : ∀ inv, (f inv).paymentHash = inv.paymentHash} (k' : Hex) :
    (w.mutHoldInvoice k f hf).holdInvoices.get? k'
      = if k' = k then (w.holdInvoices.get? k).map f else w.holdInvoices.get? k' := by
  show (w.holdInvoices.modify k f hf).get? k' = _
  rw [HoldInvoices.get?_modify]
  split
  · next h => rw [h]
  · rfl

omit [Deployment] in
/-- Settling an HTLC does not change whether the next one may be settled. -/
theorem MaySettle.next {w : World} {k k' : Hex} {κ : HtlcKey} {st : HtlcState} {request : Request}
    {res : HookResult} (h : MaySettle a w k) :
    MaySettle a ((w.mutHoldInvoice k' (·.setHtlcState κ st) fun _ => rfl).answered request res)
      k := by
  cases h with
  | prepay env main p ha hmain hfunded hassoc hk =>
    by_cases hkey : hex main.paymentHash = k'
    · refine .prepay env (main.setHtlcState κ st) p ha ?_ hfunded hassoc hk
      rw [World.answered_holdInvoices]
      apply (World.get?_mutHoldInvoice _).trans
      rw [HoldInvoice.paymentHash_setHtlcState, if_pos hkey, ← hkey, hmain]
      rfl
    · refine .prepay env main p ha ?_ hfunded hassoc hk
      rw [World.answered_holdInvoices]
      apply (World.get?_mutHoldInvoice _).trans
      rw [if_neg hkey]
      exact hmain
  | claim env address ref ha hk =>
    refine .claim env address ref ha ?_
    rw [World.answered_heap]
    exact hk

/-! ## Resolving the HTLCs of an invoice -/

/-- The invoice stored under `k` has this status and these HTLCs, and no other accepted ones. -/
def HasHtlcs (k : Hex) (status : InvoiceState) (htlcs : List Htlc) (w : World) : Prop :=
  ∃ inv, w.holdInvoices.get? k = some inv ∧ inv.fundingStatus = status ∧
    (∀ h ∈ htlcs, h ∈ inv.incomingHtlcs) ∧
    ∀ h ∈ inv.incomingHtlcs, h.state = .accepted → h ∈ htlcs

omit [Deployment] in
/-- Resolving one HTLC leaves the others. -/
theorem HasHtlcs.next {w : World} {k : Hex} {status : InvoiceState} {htlc : Htlc}
    {htlcs : List Htlc} {st : HtlcState} {request : Request} {res : HookResult}
    (hst : st ≠ .accepted) (hkeys : ∀ h ∈ htlcs, h.key ≠ htlc.key)
    (h : HasHtlcs k status (htlc :: htlcs) w) :
    HasHtlcs k status htlcs
      ((w.mutHoldInvoice k (·.setHtlcState htlc.key st) fun _ => rfl).answered request res) := by
  obtain ⟨inv, hinv, hstatus, hmem, hrest⟩ := h
  refine ⟨inv.setHtlcState htlc.key st, ?_, hstatus, fun b hb => ?_, fun b hb hacc => ?_⟩
  · rw [World.answered_holdInvoices]
    apply (World.get?_mutHoldInvoice _).trans
    rw [if_pos rfl, hinv]
    rfl
  · exact HoldInvoice.mem_setHtlcState.mpr
      ⟨b, hmem b (List.mem_cons_of_mem htlc hb), if_neg (hkeys b hb)⟩
  · obtain ⟨c, hc, rfl⟩ := HoldInvoice.mem_setHtlcState.mp hb
    split at hacc
    · exact absurd hacc hst
    · next hkey =>
      rw [if_neg hkey]
      rcases List.mem_cons.mp (hrest c hc hacc) with rfl | hc
      · exact absurd rfl hkey
      · exact hc

omit [Deployment] in
theorem HasHtlcs.skip {w : World} {k : Hex} {status : InvoiceState} {htlc : Htlc}
    {htlcs : List Htlc} (hstate : htlc.state ≠ .accepted) (h : HasHtlcs k status (htlc :: htlcs) w) :
    HasHtlcs k status htlcs w := by
  obtain ⟨inv, hinv, hstatus, hmem, hrest⟩ := h
  refine ⟨inv, hinv, hstatus, fun b hb => hmem b (List.mem_cons_of_mem htlc hb),
    fun b hb hacc => ?_⟩
  rcases List.mem_cons.mp (hrest b hb hacc) with rfl | hb
  · exact absurd hacc hstate
  · exact hb

/-- The loop over the accepted HTLCs of an invoice. -/
theorem walks_forAccepted {invoice : HoldInvoice} {k : Hex} {st : HtlcState} {res : HookResult}
    {S : World → Prop} (hst : st ≠ .accepted)
    (hnext : ∀ s κ request, S s →
      S ((s.mutHoldInvoice k (·.setHtlcState κ st) fun _ => rfl).answered request res))
    (hmay : ∀ s inv request, S s → s.holdInvoices.get? k = some inv →
      inv.fundingStatus = invoice.fundingStatus → MayResolve a s k inv request st res) :
    Walks (Move a w₀)
      (fun s => S s ∧ HasHtlcs k invoice.fundingStatus invoice.incomingHtlcs.elems s)
      (forAccepted invoice fun htlc => resolveHtlc k htlc st res)
      (fun _ s => S s ∧ HasHtlcs k invoice.fundingStatus [] s) := by
  unfold forAccepted
  refine Walks.forM (P := fun htlcs s => S s ∧ HasHtlcs k invoice.fundingStatus htlcs s)
    fun htlc htlcs hsuffix => ?_
  have hkeys : ∀ h ∈ htlcs, h.key ≠ htlc.key := by
    have hnodup := invoice.incomingHtlcs.nodup.sublist ((List.IsSuffix.sublist hsuffix).map Htlc.key)
    intro h hh heq
    exact (List.nodup_cons.mp hnodup).1 (heq ▸ List.mem_map_of_mem hh)
  refine Walks.ite (fun _ => walks_resolveHtlc fun s request hs hstate hrequest => ?_)
    fun hstate => Walks.pure fun s hs => ⟨hs.1, hs.2.skip hstate⟩
  refine ⟨?_, hnext s htlc.key request hs.1, hs.2.next hst hkeys⟩
  obtain ⟨inv, hinv, hstatus, hmem, -⟩ := hs.2
  exact Move.resolveHtlc s k inv htlc request st res hinv (hmem htlc List.mem_cons_self) hstate
    hrequest (hmay s inv request hs.1 hinv hstatus)

/-- `cancel_all_htlcs` of an expired invoice. -/
theorem moves_cancelAllHtlcs {invoice : HoldInvoice} {env : Env} (ha : a = .expiry env)
    (hstatus : invoice.fundingStatus ≠ .funded ∧ invoice.fundingStatus ≠ .settled) :
    Walks (Move a w₀) (fun s => s.holdInvoices.get? (hex invoice.paymentHash) = some invoice)
      (cancelAllHtlcs invoice) fun _ s => ∀ inv,
        s.holdInvoices.get? (hex invoice.paymentHash) = some inv →
        ∀ h ∈ inv.incomingHtlcs, h.state ≠ .accepted := by
  unfold cancelAllHtlcs
  refine Walks.bind ((walks_forAccepted (S := fun _ => True) (by decide) (fun _ _ _ h => h)
    fun s inv request _ _ heq => ?_).pre
      fun s hs => ⟨trivial, invoice, hs, rfl, fun _ h => h, fun _ h _ => h⟩)
    fun _ => Walks.modify fun s hs => ?_
  · exact .cancel env ha (heq ▸ hstatus)
  · obtain ⟨-, inv, hinv, heq, -, hnone⟩ := hs
    refine ⟨Move.failInvoice s _ inv env ha hinv (heq ▸ hstatus), fun inv' hinv' => ?_⟩
    have hget := (World.get?_mutHoldInvoice _).symm.trans hinv'
    rw [if_pos rfl, hinv] at hget
    cases hget
    exact fun h hh hacc => List.not_mem_nil (hnone h hh hacc)

omit [Deployment] in
/-- Settling an HTLC counts it as before. -/
theorem fullyFunded_next {w : World} {k : Hex} {κ : HtlcKey} {request : Request} {res : HookResult}
    (h : ∃ inv, w.holdInvoices.get? k = some inv ∧ inv.isFullyFunded = true) :
    ∃ inv, ((w.mutHoldInvoice k (·.setHtlcState κ .settled) fun _ => rfl).answered request
      res).holdInvoices.get? k = some inv ∧ inv.isFullyFunded = true := by
  obtain ⟨inv, hinv, hfull⟩ := h
  refine ⟨inv.setHtlcState κ .settled, ?_, HoldInvoice.isFullyFunded_mono hfull rfl ?_⟩
  · rw [World.answered_holdInvoices]
    apply (World.get?_mutHoldInvoice _).trans
    rw [if_pos rfl, hinv]
    rfl
  · apply HtlcSet.msat_le_modify
    · exact fun _ => rfl
    · exact fun _ _ => rfl

/-- `HoldInvoice.settle`. -/
theorem moves_settleInvoice {invoice : HoldInvoice} (preimage : Option Bytes) :
    Walks (Move a w₀) (fun s => MaySettle a s (hex invoice.paymentHash) ∧
        s.holdInvoices.get? (hex invoice.paymentHash) = some invoice)
      (settleInvoice invoice preimage) fun _ s => ∃ inv,
        s.holdInvoices.get? (hex invoice.paymentHash) = some inv ∧ inv.fundingStatus = .settled := by
  unfold settleInvoice
  split
  · exact Walks.throw
  · next preimage =>
    let k := hex invoice.paymentHash
    refine walks_pyAssert fun _ => walks_raiseUnless fun hfull => Walks.bind
      ((walks_forAccepted (S := fun s => MaySettle a s k ∧
        ∃ inv, s.holdInvoices.get? k = some inv ∧ inv.isFullyFunded = true) (by decide)
        (fun s κ request hs => ⟨hs.1.next, fullyFunded_next hs.2⟩)
        fun s inv request hs _ _ => .settle preimage hs.1).pre fun s hs =>
          ⟨⟨hs.1, invoice, hs.2, hfull⟩, invoice, hs.2, rfl, fun _ h => h, fun _ h _ => h⟩)
      fun _ => Walks.bind (U := fun _ s => ∃ inv, s.holdInvoices.get? k = some inv ∧
        inv.fundingStatus = .settled) (Walks.modify fun s hs => ?_) fun _ =>
      Walks.modify fun s hs => ⟨Move.say s _ trivial, hs⟩
    obtain ⟨⟨hmay, inv, hinv, hfull⟩, inv', hinv', -, -, hnone⟩ := hs
    rw [hinv] at hinv'
    cases hinv'
    refine ⟨Move.settleInvoice s k inv hmay hinv hfull
      fun h hh hacc => List.not_mem_nil (hnone h hh hacc), inv.setFundingStatus .settled, ?_, rfl⟩
    apply (World.get?_mutHoldInvoice _).trans
    rw [if_pos rfl, hinv]
    rfl

/-! ## The tables of `CLNLightning` -/

section Tables

variable (env : Env)

theorem moves_createPaymentInfo :
    Walks (Move a w₀) (fun _ => True) (createPaymentInfo env)
      fun h _ => h = sha256 env.urandomPreimage := by
  unfold createPaymentInfo savePreimage
  refine Walks.bind (U := fun _ _ => True) (Moves.ite Moves.throw (Moves.bind ?_ fun _ =>
    moves_dbWrite env)) fun _ => Walks.pure fun _ _ => rfl
  exact Moves.modify fun s => Move.setPreimage s _ _

theorem walks_deletePaymentInfo (payment_hash : Bytes) (write_db : Bool) :
    Walks (Move a w₀) (fun s => MayDrop a s (hex payment_hash))
      (deletePaymentInfo env (some payment_hash) write_db) fun _ _ => True := by
  unfold deletePaymentInfo
  refine Walks.get fun w hw => ?_
  refine Walks.ite (fun _ => Walks.bind (U := fun _ _ => True) (Walks.modify fun s hs => ⟨?_, trivial⟩) fun _ =>
    (moves_writeIf env write_db).walks) fun _ => Walks.pure fun _ _ => trivial
  subst hs
  exact Move.popPreimage s _ hw

theorem moves_deleteInvoice (k : Hex) (write_db : Bool) :
    Moves (Move a w₀) (deleteInvoice env k write_db) := by
  unfold deleteInvoice
  refine Moves.get fun w => Moves.ite (Moves.bind ?_ fun _ => moves_writeIf env write_db) Moves.pure
  exact Moves.modify fun s => Move.popInvoice s _

theorem moves_getPreimage {R : World → World → Prop} (payment_hash : Bytes) :
    Moves R (getPreimage payment_hash) := by
  unfold getPreimage
  refine Moves.bind (moves_pyAssert _) fun _ => Moves.get fun w => ?_
  split
  · exact Moves.pure
  · exact Moves.ite Moves.throw Moves.pure

theorem moves_unregister (k : Hex) : Moves (Move a w₀) (unregisterHoldInvoiceCallback k) :=
  Moves.modify fun s => Move.unregister s k

/-- What may be popped is told by the table and the action. -/
theorem walks_deleteHoldInvoice {P : World → Prop} {k : Hex}
    (hP : ∀ s callbacks, P s → MayPop a { s with holdInvoiceCallbacks := callbacks } k)
    (write_db : Bool) :
    Walks (Move a w₀) P (deleteHoldInvoice env k write_db) fun _ _ => True := by
  unfold deleteHoldInvoice
  refine Walks.bind (U := fun _ s => MayPop a s k)
    (Walks.modify fun s hs => ⟨Move.unregister s k, hP s _ hs⟩) fun _ => Walks.get fun w hw => ?_
  refine Walks.ite (fun _ => Walks.bind (U := fun _ _ => True) (Walks.modify fun s hs => ?_)
    fun _ => moves_writeIf env write_db) fun _ => Walks.pure fun _ _ => trivial
  exact ⟨Move.popHold s k (hs ▸ hw), trivial⟩

theorem moves_deleteHoldInvoice {address : Address} {env' : Env} (ha : a = .claim env' address)
    (k : Hex) (write_db : Bool) : Moves (Move a w₀) (deleteHoldInvoice env k write_db) :=
  walks_deleteHoldInvoice env (fun _ _ _ => .finished env' address ha) write_db

theorem moves_updateInvoice (payment_hash : Bytes) :
    Moves (Move a w₀) (updateInvoice env payment_hash) := by
  unfold updateInvoice
  refine Walks.get fun w _ => ?_
  split
  · exact Walks.throw
  · next invoice hinvoice =>
    refine Walks.modifyTwice (S := fun _ => True) (fun s hs => ?_) (moves_dbWrite env)
    subst hs
    exact ⟨Move.updateHold s _ invoice hinvoice, trivial⟩

theorem moves_b11invoiceFromHash {P : World → Prop} {payment_hash : Bytes}
    (ha : ∃ h p, a.pair? = some (h, p) ∧ (payment_hash = h ∨ payment_hash = p))
    (hP : ∀ s, P s → s = w₀ ∨ ∃ main, a.pair? = some (main, payment_hash))
    (amount_msat : Int) (message : String) (expiry : Nat) :
    Walks (Move a w₀) P (b11invoiceFromHash env payment_hash amount_msat message expiry)
      fun invoice _ => invoice.paymentHash = payment_hash := by
  unfold b11invoiceFromHash
  refine walks_pyAssert fun _ => walks_raiseUnless fun _ => walks_orRaise fun _ _ =>
    walks_raiseIf fun _ => walks_orRaise fun signed _ => ?_
  refine Walks.bind (U := fun _ _ => True) ?_ fun _ => Walks.pure fun _ _ => rfl
  unfold saveHoldInvoice
  refine Walks.bind (U := fun _ _ => True) (Walks.modify fun s hs => ⟨?_, trivial⟩) fun _ =>
    moves_dbWrite env
  exact Move.createHold s _ ⟨ha, rfl, rfl, rfl⟩ (hP s hs)

end Tables

/-! ## The HTLC hook -/

section Hook

variable (env : Env) {request : Request}

theorem moves_handleHtlc (ha : a.hookRequest? = some request) {invoice : HoldInvoice}
    (payment_secret : Option Bytes) :
    Walks (Move a w₀) (fun s => s.getHoldInvoice request.htlc.paymentHash = some invoice)
      (handleHtlc env invoice payment_secret request) fun _ _ => True := by
  have hhash : ∀ s : World, s.getHoldInvoice request.htlc.paymentHash = some invoice →
      invoice.paymentHash = request.htlc.paymentHash :=
    fun s hs => hex_inj.mp (HoldInvoices.hex_paymentHash hs)
  dsimp only [handleHtlc]
  rw [Htlc.key_fromClnDict]
  cases hfind : invoice.findHtlc request.htlc.key with
  | some existing =>
    refine Walks.bind (U := fun _ _ => True) (Walks.modify fun s hs => ⟨?_, trivial⟩)
      fun _ => Moves.pure
    rw [hhash s hs]
    exact Move.replayHtlc s invoice request existing ha hs hfind
  | none =>
    let htlc := Htlc.fromClnDict request.htlc request env.now
    let P : World → Prop := fun s => invoice.paymentHash = request.htlc.paymentHash ∧
      s.holdInvoices.get? (hex invoice.paymentHash) = some (invoice.addHtlc htlc)
    have hmem : htlc ∈ (invoice.addHtlc htlc).incomingHtlcs :=
      (HoldInvoice.mem_addHtlc hfind).mpr (.inr rfl)
    refine Walks.bind (U := fun _ => P) (Walks.modify fun s hs => ⟨?_, hhash s hs, ?_⟩) fun _ => ?_
    · rw [hhash s hs]
      exact Move.addHtlc s invoice request env.now ha hs hfind
    · apply (World.get?_mutHoldInvoice _).trans
      rw [if_pos rfl, hhash s hs]
      show (s.getHoldInvoice request.htlc.paymentHash).map _ = _
      rw [hs]
      rfl
    · cases hresult : checkHtlc env invoice payment_secret request.htlc with
      | error e => exact Walks.throw
      | ok accepted =>
        cases accepted with
        | false =>
          refine Walks.bind (U := fun _ _ => True) (walks_resolveHtlc fun s r hs hstate hr => ?_)
            fun _ => Moves.pure
          cases hr
          exact ⟨Move.resolveHtlc s _ _ htlc request _ _ hs.2 hmem hstate rfl (.reject ha), trivial⟩
        | true =>
          refine Walks.ite (fun hfull => ?_) fun _ => Walks.pure fun _ _ => trivial
          have hstatus := (checkHtlc_passed hresult).1
          refine Walks.bind (U := fun _ _ => True) (Walks.modify fun s hs => ⟨?_, trivial⟩) fun _ =>
            Moves.bind (Moves.modify fun s => Move.say s _ trivial) fun _ => Moves.pure
          exact Move.fund s _ _ request ha (by rw [hs.1]) hs.2 hfull hstatus

theorem moves_pluginHtlcAcceptedHook (ha : a.hookRequest? = some request) (forward : Bool)
    (payment_secret : Option Bytes) :
    Moves (Move a w₀) (pluginHtlcAcceptedHook env forward payment_secret request) := by
  have hanswer : ∀ {P : World → Prop} res,
      Walks (Move a w₀) P (setResult request res) fun _ _ => True :=
    fun res => walks_setResult fun s _ => ⟨Move.answerHook s request res ha, trivial⟩
  unfold pluginHtlcAcceptedHook
  refine Walks.ite (fun _ => hanswer _) fun _ => Walks.get fun w _ => ?_
  split
  · exact hanswer _
  · next invoice hinvoice =>
    refine Walks.tryCatch (Walks.bind ((moves_handleHtlc env ha payment_secret).pre
      fun s hs => hs ▸ hinvoice) fun changed => ?_) fun _ => hanswer _
    exact Moves.ite (moves_updateInvoice env _) Moves.pure

end Hook

/-! ## The expiry pass -/

theorem moves_monitorExpiries {env : Env} (ha : a = .expiry env) :
    Moves (Move a w₀) (monitorExpiries env) := by
  refine Moves.get fun w => Moves.tryCatch (Moves.forM fun payment_hash _ =>
    Walks.get fun w _ => Walks.bind (U := fun _ _ => True) ?_ fun _ =>
      Moves.ite Moves.throw Moves.pure) fun _ => Moves.pure
  unfold checkInvoiceExpiry
  split
  · exact Walks.pure fun _ _ => trivial
  · next invoice hinvoice =>
    refine Walks.ite (fun hexpired => ?_) fun _ => Walks.pure fun _ _ => trivial
    have hk : hex invoice.paymentHash = payment_hash := HoldInvoices.hex_paymentHash hinvoice
    let P : World → Prop := fun s => ∀ inv,
      s.holdInvoices.get? (hex invoice.paymentHash) = some inv →
      ∀ h ∈ inv.incomingHtlcs, h.state ≠ .accepted
    refine Walks.bind (U := fun _ => P) ((moves_cancelAllHtlcs ha hexpired.2).pre fun s hs => ?_)
      fun _ => Walks.get fun w hw => Walks.bind (U := fun _ => P)
        (Walks.ite (fun _ => Walks.throw) fun _ => Walks.pure fun s hs => hs ▸ hw) fun _ =>
      Walks.bind (walks_deleteHoldInvoice env (fun s _ hs => .expired env ha hs) _) fun _ =>
        Walks.pure fun _ _ => trivial
    rw [hs, hk]
    exact hinvoice

/-! ## The swap manager -/

section Swaps

variable (env : Env)

theorem walks_popInvoiceToPay {P : World → Prop} (k : Hex)
    (hP : ∀ s toPay, P s → P { s with invoicesToPay := toPay }) :
    Walks (Move a w₀) P (popInvoiceToPay k) fun _ => P := by
  unfold popInvoiceToPay
  refine Walks.get fun w hw => ?_
  split
  · exact Walks.throw
  · next toPay htoPay =>
    exact Walks.modify fun s hs => ⟨hs ▸ Move.popToPay w k toPay htoPay, hs ▸ hP w _ hw⟩

theorem walks_setInvoiceToPay {P : World → Prop} {key : Hex} (ha : a.hashes = []) (not_before : Nat)
    (h : ∀ s, P s → w₀.Paying key ∨ (s.db.Clean ∧ (s.swaps.get? key).isSome) ∨
      ∃ ref, s.Tracks ref ∧ (s.heap ref).isReverse = true ∧ (s.heap ref).preimage = none) :
    Walks (Move a w₀) P (setInvoiceToPay key not_before) fun _ _ => True := by
  unfold setInvoiceToPay
  refine Walks.get fun w hw => ?_
  split
  · exact Walks.throw
  · next toPay htoPay =>
    exact Walks.modify fun s hs =>
      ⟨hs ▸ Move.setToPay w key toPay not_before htoPay ha (h w hw), trivial⟩

/-- The swap `ref` is over, and its invoice is gone if it is a reverse one. -/
structure Over (w₀ : World) (ref : SwapRef) (swap : SwapData) (s : World) : Prop where
  heap : s.heap ref = swap
  had : w₀.Had ref s
  unpaid : swap.isReverse = true → s.invoices.contains (hex swap.paymentHash) = false

/-- And nobody watches its lockup address any more. -/
structure LetGo (w₀ : World) (ref : SwapRef) (swap : SwapData) (s : World) : Prop
    extends Over w₀ ref swap s where
  unwatched : s.lnwatcherCallbacks.get? swap.lockupAddress = none

theorem walks_removeCallback (ref : SwapRef) (swap : SwapData) :
    Walks (Move a w₀) (Over w₀ ref swap) (removeCallback swap.lockupAddress)
      fun _ => LetGo w₀ ref swap :=
  Walks.modify fun s hs => ⟨Move.unwatch s _, ⟨hs.heap, hs.had, hs.unpaid⟩, Dict.get?_pop_self _ _⟩

omit [Deployment] in
theorem LetGo.mayForget {ref : SwapRef} {swap : SwapData} {s : World} (h : LetGo w₀ ref swap s) :
    MayForget w₀ s (hex swap.paymentHash) := by
  have hheap := h.heap
  subst hheap
  exact .ended ref rfl h.had h.unwatched h.unpaid

theorem walks_popSwapOrRaise (ref : SwapRef) (swap : SwapData) :
    Walks (Move a w₀) (LetGo w₀ ref swap) (popSwapOrRaise (hex swap.paymentHash))
      fun _ _ => True := by
  unfold popSwapOrRaise
  refine Walks.get fun w hw => Walks.ite (fun _ => Walks.modify fun s hs => ⟨?_, trivial⟩)
    fun _ => Walks.throw
  exact Move.popSwap s _ (hs ▸ hw).mayForget

omit [Deployment] in
/-- `delete_invoice` leaves no invoice under the key. -/
theorem triple_deleteInvoice (k : Hex) :
    Triple (fun _ => True) (deleteInvoice env k false) (fun _ s => s.invoices.contains k = false)
      fun _ _ => True := by
  unfold deleteInvoice
  refine Triple.getBind fun w _ => ?_
  split
  · next hcontains =>
    refine Triple.modifyBind (R := fun s => s.invoices.contains k = false) (fun s hs => ?_)
      (Triple.pure fun _ hs => hs)
    subst hs
    unfold World.popInvoice
    rw [if_pos hcontains]
    show ((s.invoices.pop k).get? k).isSome = false
    rw [Dict.get?_pop_self]
    rfl
  · next hcontains => exact Triple.pure fun s hs => by subst hs; simpa using hcontains

/-- Deleting the invoice of a swap that is over. -/
theorem walks_deleteInvoiceOf (ref : SwapRef) (swap : SwapData) :
    Walks (Move a w₀) (fun s => s.heap ref = swap ∧ w₀.Had ref s)
      (deleteInvoice env (hex swap.paymentHash) false) fun _ => Over w₀ ref swap := by
  have hsame : Keeps (fun s => s.heap ref = swap ∧ w₀.Had ref s)
      (deleteInvoice env (hex swap.paymentHash) false) :=
    Keeps.of_rel (fun w₁ => same_deleteInvoice env w₁ _ _) SwapsSame.refl fun _ _ hst hs => by
      unfold World.Had
      rw [hst.heap, hst.swaps]
      exact hs
  exact (Walks.and ((moves_deleteInvoice env _ _).and hsame)
    (triple_deleteInvoice env (hex swap.paymentHash))).conseq (fun _ hs => ⟨hs, trivial⟩)
      fun _ _ hs => ⟨hs.1.1, hs.1.2, fun _ => hs.2⟩

theorem walks_failSwap (ref : SwapRef) :
    Walks (Move a w₀) (w₀.Had ref) (failSwap env ref) fun _ _ => True := by
  unfold failSwap
  refine Walks.get fun w hw => ?_
  have hbranch : (!(w.heap ref).isReverse &&
      (PyKey.bytes (w.heap ref).paymentHash).isIn w.holdInvoiceCallbacks) = false :=
    Bool.and_false _
  simp only [hbranch, Bool.false_eq_true, if_false]
  refine Walks.bind (U := fun _ => Over w₀ ref (w.heap ref)) ?_ fun _ =>
    Walks.bind (walks_removeCallback ref (w.heap ref)) fun _ =>
    Walks.bind (U := fun _ _ => True) (Walks.ite (fun _ => walks_popSwapOrRaise ref _)
      fun _ => Walks.pure fun _ _ => trivial) fun _ => moves_dbWrite env
  refine (Walks.bind (walks_deleteInvoiceOf env ref (w.heap ref)) fun _ =>
    walks_popInvoiceToPay _ fun s _ hs => ⟨hs.heap, hs.had, hs.unpaid⟩).pre fun s hs => ?_
  subst hs
  exact ⟨rfl, hw⟩

theorem moves_failSwapOf (key : Hex) : Moves (Move a w₀) (failSwapOf env key) := by
  unfold failSwapOf
  refine Walks.get fun w _ => ?_
  split
  · exact Walks.pure fun _ _ => trivial
  · next ref href => exact (walks_failSwap env ref).pre fun s hs => .inr ⟨key, hs ▸ href⟩

theorem walks_deleteFinishedReverseSwap (ref : SwapRef) :
    Walks (Move a w₀) (w₀.Had ref) (deleteFinishedReverseSwap env ref) fun _ _ => True := by
  unfold deleteFinishedReverseSwap
  refine Walks.get fun w hw => Walks.bind ((walks_deleteInvoiceOf env ref (w.heap ref)).pre
      fun s hs => ⟨by rw [hs], hs ▸ hw⟩) fun _ =>
    Walks.bind (walks_removeCallback ref (w.heap ref)) fun _ =>
    Walks.bind (walks_popInvoiceToPay _ fun s _ hs => ⟨⟨hs.heap, hs.had, hs.unpaid⟩, hs.unwatched⟩)
      fun _ => Walks.bind (U := fun _ _ => True) (Walks.ite (fun _ => Walks.modify fun s hs =>
        ⟨Move.popSwap s _ hs.mayForget, trivial⟩) fun _ => Walks.pure fun _ _ => trivial) fun _ =>
      moves_dbWrite env

/-! ## Requests -/

theorem moves_registerAddress (address : Address) :
    Moves (Move a w₀) (registerAddress env address) :=
  Moves.ite Moves.pure Moves.throw

omit [Deployment] in
/-- Every image has a prepay invoice attached to the invoice `h`, if it has the invoice. -/
def Bundled (h : Bytes) (s : World) : Prop :=
  ∀ d, s.Image d → ∀ inv, d.holdInvoices.get? (hex h) = some inv →
    inv.associatedInvoice.isSome = true

omit [Deployment] in
theorem Bundled.congr {h : Bytes} {s s' : World} (hs : Bundled h s) (hdb : s'.db = s.db)
    (hholds : s'.holdInvoices = s.holdInvoices) : Bundled h s' := by
  intro d hd inv hinv
  rcases hd with hd | hd | rfl
  · exact hs d (.inl (hdb ▸ hd)) inv hinv
  · exact hs d (.inr (.inl (hdb ▸ hd))) inv hinv
  · apply hs s.doc (.inr (.inr rfl)) inv
    show s.holdInvoices.stored.get? (hex h) = some inv
    rw [← hholds]
    exact hinv

theorem walks_bundlePayments {h p : Bytes} (ha : a.pair? = some (h, p)) :
    Walks (Move a w₀) (fun _ => True) (bundlePayments env h p) fun _ => Bundled h := by
  unfold bundlePayments
  refine Walks.get fun w _ => ?_
  split
  · exact Walks.throw
  · next invoice hinvoice =>
    have hk : hex invoice.paymentHash = hex h := HoldInvoices.hex_paymentHash hinvoice
    have hlive : (w.holdInvoices.get? (hex h)).isSome = true := by
      show (w.getHoldInvoice h).isSome = true
      rw [hinvoice]
      rfl
    cases hassoc : invoice.associatedInvoice with
    | some q =>
      refine Walks.bind (U := fun _ _ => True)
        (Walks.modify fun s hs => ⟨Move.popHold s _ (.refused h p ha rfl ?_), trivial⟩)
        fun _ => Walks.throw
      subst hs
      intro inv hinv
      have heq : s.holdInvoices.get? (hex h) = some invoice := hinvoice
      rw [heq] at hinv
      cases hinv
      rw [hassoc]
      rfl
    | none =>
      show Walks (Move a w₀) (· = w) (modify (World.popHoldInvoice (hex h)) >>= fun _ =>
        modify (World.setHoldInvoice { invoice with associatedInvoice := some p }) >>= fun _ =>
          dbWrite env) fun _ => Bundled h
      refine Walks.modifyTwice
        (S := (· = w.replaceHold (hex h) { invoice with associatedInvoice := some p }))
        (fun s hs => ?_) ?_
      · subst hs
        refine ⟨Move.bundle s (hex h) invoice p hinvoice hassoc ?_, rfl⟩
        rw [hex_inj.mp hk]
        exact ha
      · have hwritten : Triple
            (· = w.replaceHold (hex h) { invoice with associatedInvoice := some p }) (dbWrite env)
            (fun _ s => ∀ d, s.Image d → d.holdInvoices.get? (hex h) =
              some ({ invoice with associatedInvoice := some p } : HoldInvoice).stored)
            fun _ _ => True := written_replaceHold env hlive hk
        refine (Walks.and (P := fun _ => True) (moves_dbWrite env) hwritten).conseq
          (fun s hs => ⟨trivial, hs⟩) fun _ s hs d hd inv hinv => ?_
        rw [hs.2 d hd] at hinv
        cases hinv
        rfl

/-- `_add_or_reindex_swap` and the watch of a new swap. -/
theorem walks_storeSwap {swap : SwapData} (hnew : NewSwap a swap) (ref : SwapRef) :
    Walks (Move a w₀) (fun s => ref + 1 = s.nextRef ∧ s.heap ref = swap ∧
        (swap.isReverse = false → Bundled swap.paymentHash s))
      (addOrReindexSwap ref) fun _ s => ref < s.nextRef ∧
        (s.heap ref).paymentHash = swap.paymentHash ∧
        s.swaps.contains (hex swap.paymentHash) = true := by
  unfold addOrReindexSwap
  refine Walks.get fun w hw => ?_
  obtain ⟨hnext, hheap, hbundled⟩ := hw
  refine Walks.ite (fun hc => Walks.pure fun s hs => ?_) fun hc => Walks.modify fun s hs => ?_
  · rw [hheap] at hc
    rw [hs, hheap]
    exact ⟨hnext ▸ Nat.lt_succ_self ref, rfl, hc⟩
  · subst hs
    refine ⟨Move.setSwap s ref (by simpa using hc) (.inl ⟨hnext, ?_, ?_⟩), ?_, ?_, ?_⟩
    · rw [hheap]
      exact hnew
    · rw [hheap]
      exact hbundled
    · exact hnext ▸ Nat.lt_succ_self ref
    · show (Function.update s.heap ref { s.heap ref with db := true } ref).paymentHash = _
      rw [Function.update_self, hheap]
    · show (s.swaps.set (hex (s.heap ref).paymentHash) ref).contains (hex swap.paymentHash) = true
      rw [hheap]
      simp [Dict.contains]

theorem walks_watchNew {h : Bytes} (hrun : w₀.running = true) (ref : SwapRef) :
    Walks (Move a w₀) (fun s => ref < s.nextRef ∧ (s.heap ref).paymentHash = h ∧
        s.swaps.contains (hex h) = true)
      (addLnwatcherCallback ref) fun _ s => s.swaps.contains (hex h) = true :=
  Walks.modify fun s hs =>
    ⟨Move.watch s ref (.inr ⟨hs.1, by rw [hs.2.1]; exact hs.2.2⟩) (.inr hrun), hs.2.2⟩

/-- A part of a step that allocates nothing. -/
theorem walks_first {α : Type} {p : PyM α} {P : World → Prop} {Q : α → World → Prop}
    (h : Walks (Move a w₀) P p Q) (hsame : ∀ w₁, Keeps (SwapsSame w₁) p) :
    Walks (Move a w₀) (fun s => P s ∧ s.nextRef = w₀.nextRef) p
      fun r s => Q r s ∧ s.nextRef = w₀.nextRef :=
  h.and (Keeps.of_rel hsame SwapsSame.refl fun _ _ hst hs => hst.nextRef.trans hs)

theorem walks_addNormalSwap {env : Env} {r : ClientRequest} {payment_hash : Bytes} {height : Nat}
    (ha : a = .request env r) (hrun : w₀.running = true)
    (hpair : a.pair? = some (payment_hash, sha256 env.urandomPreimage))
    (hheight : env.localHeight = some height) (redeem_script : Bytes)
    (onchain_amount_sat : Option Int) (lightning_amount_sat : Int) (our_privkey : Bytes) :
    Walks (Move a w₀) (· = w₀)
      (addNormalSwap env redeem_script (height + LOCKTIME_DELTA_REFUND) onchain_amount_sat
        lightning_amount_sat payment_hash our_privkey)
      fun _ s => s.swaps.contains (hex payment_hash) = true := by
  unfold addNormalSwap
  refine Walks.bind ((walks_first (moves_b11invoiceFromHash env ⟨_, _, hpair, .inl rfl⟩
    (fun s hs => .inl hs) _ _ _) fun w₁ => same_b11invoiceFromHash env w₁ _ _ _ _).pre
      fun s hs => ⟨hs, by rw [hs]⟩) fun invoice => ?_
  refine Walks.of_const_and fun hinvoice => Walks.bind ((walks_first (moves_createPaymentInfo env)
    fun w₁ => same_createPaymentInfo env w₁).pre fun s hs => ⟨trivial, hs⟩) fun prepay_hash =>
    Walks.of_const_and fun hprepay => ?_
  subst hprepay
  refine Walks.bind ((walks_first (moves_b11invoiceFromHash (P := fun _ => True) env
    ⟨_, _, hpair, .inr rfl⟩ (fun s _ => .inr ⟨payment_hash, hpair⟩) _ _ _)
      fun w₁ => same_b11invoiceFromHash env w₁ _ _ _ _).pre fun s hs => ⟨trivial, hs⟩)
    fun prepay_invoice => Walks.of_const_and fun hprepay => ?_
  rw [hinvoice, hprepay]
  refine Walks.bind ((walks_first (walks_bundlePayments env hpair)
    fun w₁ => same_bundlePayments env w₁ _ _).pre fun s hs => ⟨trivial, hs⟩) fun _ =>
    walks_orRaise fun receive_address _ => Walks.get fun w hw => ?_
  have hnew : NewSwap a {
      isReverse := false, locktime := height + LOCKTIME_DELTA_REFUND,
      onchainAmount := onchain_amount_sat, lightningAmount := lightning_amount_sat,
      redeemScript := redeem_script, preimage := none,
      prepayHash := some (sha256 env.urandomPreimage), privkey := our_privkey,
      lockupAddress := scriptToP2wsh redeem_script, receiveAddress := receive_address,
      fundingTxid := none, spendingTxid := none, isRedeemed := false, paymentHash := payment_hash,
      db := false } := by
    refine ⟨rfl, rfl, fun _ => ⟨_, hpair, rfl⟩, (fun h => nomatch h), env, r, height, ha, hheight, rfl⟩
  refine Walks.bind (Walks.modify fun s hs => ⟨Move.allocSwap s _ hnew (hs ▸ hw.2), ?_⟩) fun _ =>
    Walks.bind (walks_storeSwap hnew w.nextRef) fun _ => Walks.bind ?_ fun _ =>
    Walks.bind (walks_watchNew hrun w.nextRef) fun _ => Walks.pure fun _ hs => hs
  · subst hs
    exact ⟨rfl, Function.update_self _ _ _, fun _ => hw.1.congr rfl rfl⟩
  · exact (moves_registerAddress env _).and (Keeps.ite Keeps.pure Keeps.throw)

theorem walks_createNormalSwap {env : Env} {r : ClientRequest} {payment_hash : Bytes}
    (ha : a = .request env r) (hrun : w₀.running = true)
    (hpair : a.pair? = some (payment_hash, sha256 env.urandomPreimage))
    (lightning_amount_sat : Int) (their_pubkey : Bytes) :
    Walks (Move a w₀) (· = w₀) (createNormalSwap env lightning_amount_sat payment_hash their_pubkey)
      fun _ _ => True := by
  unfold createNormalSwap
  refine walks_pyAssert fun _ => walks_orRaise fun height hheight =>
    Walks.bind (U := fun _ s => s = w₀) ?_ fun onchain_amount_sat =>
    Walks.bind (walks_addNormalSwap ha hrun hpair hheight _ _ _ _) fun created =>
    Walks.bind (U := fun _ _ => True) (Walks.modify fun s hs =>
      ⟨Move.registerNew s payment_hash _ hpair hs, trivial⟩) fun _ => Moves.pure
  unfold getRecvAmount
  refine Walks.get fun w hw => ?_
  split
  · exact Walks.throw
  · exact Walks.pure fun s hs => hs.trans hw

theorem walks_createReverseSwap {env : Env} {lightning_amount_sat : Int} {their_pubkey : Bytes}
    (ha : a = .request env (.createnormalswap lightning_amount_sat their_pubkey))
    (hrun : w₀.running = true) :
    Walks (Move a w₀) (· = w₀) (createReverseSwap env lightning_amount_sat their_pubkey)
      fun _ _ => True := by
  unfold createReverseSwap
  refine walks_orRaise fun height hheight => Walks.bind (U := fun _ s => s = w₀) ?_
    fun onchain_amount_sat => ?_
  · unfold getSendAmount
    refine Walks.get fun w hw => Walks.ite (fun _ => Walks.pure fun s hs => hs.trans hw) fun _ => ?_
    split
    · exact Walks.throw
    · exact Walks.pure fun s hs => hs.trans hw
  · unfold addReverseSwap
    refine walks_orRaise fun receive_address _ =>
      Walks.bind ((moves_registerAddress env _).and (Keeps.ite Keeps.pure Keeps.throw)) fun _ =>
      Walks.get fun w hw => ?_
    have hnew : NewSwap a {
        isReverse := true, locktime := height + LOCKTIME_DELTA_REFUND,
        onchainAmount := onchain_amount_sat, lightningAmount := lightning_amount_sat,
        redeemScript := swapScript (ripemd (sha256 env.urandomPreimage))
          (publicKey env.urandomPrivkey) (height + LOCKTIME_DELTA_REFUND) their_pubkey,
        preimage := some env.urandomPreimage, prepayHash := none, privkey := env.urandomPrivkey,
        lockupAddress := scriptToP2wsh (swapScript (ripemd (sha256 env.urandomPreimage))
          (publicKey env.urandomPrivkey) (height + LOCKTIME_DELTA_REFUND) their_pubkey),
        receiveAddress := receive_address, fundingTxid := none, spendingTxid := none,
        isRedeemed := false, paymentHash := sha256 env.urandomPreimage, db := false } := by
      refine ⟨rfl, rfl, (fun h => nomatch h), fun _ => ⟨?_, rfl⟩, env, _, height, ha, hheight, rfl⟩
      rw [ha]
      rfl
    refine Walks.bind (Walks.modify fun s hs => ⟨Move.allocSwap s _ hnew ?_, ?_⟩) fun _ =>
      Walks.bind (walks_storeSwap hnew w.nextRef) fun _ =>
      Walks.bind (walks_watchNew hrun w.nextRef) fun _ => Walks.pure fun _ _ => trivial
    · rw [hs, hw]
    subst hs
    exact ⟨rfl, Function.update_self _ _ _, fun h => nomatch h⟩

theorem moves_serverAddSwapInvoice (ha : a.hashes = []) (env : Env) (invoice : Option Invoice) :
    Moves (Move a w₀) (serverAddSwapInvoice env invoice) := by
  unfold serverAddSwapInvoice
  refine walks_orRaise fun invoice _ => Walks.get fun w _ => ?_
  split
  · exact Walks.throw
  · next swap hswap =>
    let P : World → Prop := fun s => s.db.Clean ∧ (s.swaps.get? (hex invoice.rhash)).isSome
    refine walks_orRaise fun amount _ => walks_pyAssert fun _ => Walks.bind (U := fun _ => P) ?_
      fun _ => walks_orRaise fun preimage _ => walks_pyAssert fun _ => walks_pyAssert fun _ =>
      walks_setInvoiceToPay ha 0 fun s hs => .inr (.inl hs)
    have hisSome : (w.swaps.get? (hex invoice.rhash)).isSome := by
      obtain ⟨ref, href, -⟩ := Option.map_eq_some_iff.mp hswap
      rw [href]
      rfl
    unfold saveInvoice
    refine Walks.bind (U := fun _ s => (s.swaps.get? (hex invoice.rhash)).isSome)
      (Walks.modify fun s hs => ⟨Move.setInvoice s _ _ (hs ▸ hisSome), ?_⟩) fun _ => ?_
    · subst hs
      have hswaps : (s.setInvoice (hex invoice.rhash) invoice).swaps = s.swaps := by
        unfold World.setInvoice
        split <;> rfl
      rw [hswaps]
      exact hisSome
    · have hswaps : Keeps (fun s : World => (s.swaps.get? (hex invoice.rhash)).isSome) (dbWrite env) :=
        Keeps.of_rel (same_dbWrite env) SwapsSame.refl fun _ _ hst hs => hst.swaps ▸ hs
      exact (Walks.and ((moves_dbWrite env).and hswaps) (clean_dbWrite env)).conseq
        (fun s hs => ⟨hs, trivial⟩) fun _ s hs => ⟨hs.2, hs.1⟩

theorem walks_handleRequest {env : Env} {r : ClientRequest} (ha : a = .request env r)
    (hrun : w₀.running = true) :
    Walks (Move a w₀) (· = w₀) (handleRequest env r) fun _ _ => True := by
  have hdone : ∀ {P : World → Prop}, Walks (Move a w₀) P (pure () : PyM Unit) fun _ _ => True :=
    Walks.pure fun _ _ => trivial
  cases r with
  | createswap type pairId invoiceAmount preimageHash claimPublicKey =>
    unfold handleRequest serverCreateSwap
    refine walks_pyAssert fun _ => Walks.ite (fun _ => walks_pyAssert fun _ =>
      walks_pyAssert fun _ => Walks.ite (fun _ => hdone) fun _ => walks_orRaise fun balance _ =>
        Walks.ite (fun _ => hdone) fun _ => Walks.bind (U := fun _ _ => True) ?_ fun _ => hdone)
          fun _ => hdone
    exact walks_createNormalSwap ha hrun (by rw [ha]; rfl) _ _
  | createnormalswap invoiceAmount refundPublicKey =>
    unfold handleRequest serverCreateNormalSwap
    exact walks_pyAssert fun _ => Walks.ite (fun _ => hdone) fun _ =>
      Walks.bind (walks_createReverseSwap ha hrun) fun _ => hdone
  | addswapinvoice invoice =>
    exact (moves_serverAddSwapInvoice (by rw [ha]; rfl) env invoice).walks
  | unknown method => exact hdone

/-! ## Outgoing payments -/

theorem walks_payPendingLnInvoices :
    Walks (Move a w₀) (· = w₀) (payPendingLnInvoices env) fun _ _ => True := by
  unfold payPendingLnInvoices
  refine Walks.get fun w hw => Walks.modify fun s hs => ⟨Move.setTasks s _ fun task htask => ?_, trivial⟩
  subst hs
  rcases List.mem_append.mp htask with htask | htask
  · exact .inl htask
  · obtain ⟨item, hitem, rfl⟩ := List.mem_map.mp htask
    have hmem : item ∈ (s.invoicesToPay.getD ∅).items := (List.mem_filter.mp hitem).1
    refine .inr ⟨item.1, .inl ?_, .inl rfl⟩
    rw [← hw]
    cases htoPay : s.invoicesToPay with
    | none =>
      rw [htoPay] at hmem
      cases hmem
    | some toPay =>
      rw [htoPay] at hmem
      refine ⟨toPay, rfl, ?_⟩
      exact Dict.mem_keys_iff.mp (List.mem_map.mpr ⟨item, hmem, rfl⟩)

omit [Deployment] in
theorem same_setInvoiceToPay (db : Db) (invoices : Dict Hex Invoice) (key : Hex) (not_before : Nat) :
    Keeps (fun s : World => s.db = db ∧ s.invoices = invoices) (setInvoiceToPay key not_before) := by
  unfold setInvoiceToPay
  refine Keeps.get fun w => ?_
  split
  · exact Keeps.throw
  · exact Keeps.modify fun _ hs => hs

theorem walks_payTaskStep {n : Nat} {result : PayResult} (hpay : a = .payTask env n result) :
    Walks (Move a w₀) (· = w₀) (payTaskStep env n result) fun _ _ => True := by
  have ha : a.hashes = [] := hpay ▸ rfl
  unfold payTaskStep
  refine Walks.get fun w hw => ?_
  subst hw
  split
  · exact Walks.pure fun _ _ => trivial
  · next task htask =>
    have hmem : task ∈ w.payTasks := List.mem_of_getElem? htask
    refine Walks.bind (U := fun _ s => s.db = w.db ∧ s.invoices = w.invoices) (Walks.modify fun s hs =>
      ⟨Move.setTasks s _ fun t ht => .inl ?_, hs ▸ ⟨rfl, rfl⟩⟩) fun _ => ?_
    · subst hs
      exact List.mem_of_mem_eraseIdx ht
    · cases task with
      | spawned key =>
        have hpaying : w.Paying key := .inr (.inl hmem)
        unfold payPendingLnInvoice
        have hqueue : Walks (Move a w) (fun s => s.db = w.db ∧ s.invoices = w.invoices)
            (setInvoiceToPay key 1000000000000) fun _ s => s.db = w.db ∧ s.invoices = w.invoices :=
          ((walks_setInvoiceToPay ha _ fun s _ => .inl hpaying).and
            (same_setInvoiceToPay w.db w.invoices key _)).conseq (fun _ hs => ⟨hs, hs⟩)
            fun _ _ hs => hs.2
        refine Walks.bind hqueue fun _ => Walks.get fun w' hsame => ?_
        split
        · exact (moves_failSwapOf env key).walks
        · next invoice hinvoice =>
          refine Walks.bind
            (U := fun _ s => s = { w' with payTasks := w'.payTasks ++ [.paying key invoice] })
            (Walks.modify fun s hs => ⟨Move.setTasks s _ fun t ht => ?_, by rw [hs]⟩) fun _ =>
            Walks.modify fun s hs => ⟨?_, trivial⟩
          · rcases List.mem_append.mp ht with ht | ht
            · exact .inl ht
            · exact .inr ⟨key, hpaying, .inr ⟨invoice, List.mem_singleton.mp ht⟩⟩
          · subst hs
            exact Move.payInvoice { w' with payTasks := w'.payTasks ++ [.paying key invoice] } key
              ⟨env, n, result, hpay, htask⟩ hsame hpaying (Option.isSome_of_mem hinvoice)
      | paying key invoice =>
        have hpaying : w.Paying key := .inr (.inr ⟨invoice, hmem⟩)
        cases result with
        | raised => exact (moves_failSwapOf env key).walks
        | failed =>
          exact Walks.ite (fun _ => (moves_failSwapOf env key).walks)
            fun _ => walks_setInvoiceToPay ha _ fun s _ => .inl hpaying
        | paid =>
          have hpaid : Moves (Move a w) (deleteInvoice env key true >>= fun _ => popInvoiceToPay key) :=
            Moves.bind (moves_deleteInvoice env key true) fun _ =>
              walks_popInvoiceToPay key fun _ _ _ => trivial
          exact hpaid.walks

/-! ## The chain callback -/

omit [Deployment] in
/-- Storing what is stored already changes nothing. -/
theorem World.assign_of_eq {ref : SwapRef} {f : SwapData → SwapData} {s : World}
    (h : f (s.heap ref) = s.heap ref) : s.assign ref f = s := by
  dsimp only [World.assign]
  rw [h, Function.update_eq_self, if_neg (by simp)]

omit [Deployment] in
@[simp] theorem Assignment.isReverse {swap swap' : SwapData} {f : SwapData → SwapData}
    (h : Assignment swap f) : (f swap').isReverse = swap'.isReverse := by
  cases h <;> rfl

/-- The swap object `ref` is watched. -/
structure Watched (ref : SwapRef) (isReverse : Bool) (s : World) : Prop where
  watched : ∃ address, s.lnwatcherCallbacks.get? address = some ref
  isReverse : (s.heap ref).isReverse = isReverse

section Claim

variable {address : Address} (ha : a = .claim env address) {ref : SwapRef} {isReverse : Bool}

include ha

theorem walks_finishNormalSwap (htracked : w₀.Tracks ref) :
    Walks (Move a w₀) (Watched ref false) (finishNormalSwap env ref) fun _ _ => True := by
  unfold finishNormalSwap
  refine Walks.get fun w hw => walks_pyAssert fun _ => ?_
  split
  · exact Walks.throw
  · next invoice hinvoice =>
    have hk : hex invoice.paymentHash = hex (w.heap ref).paymentHash :=
      HoldInvoices.hex_paymentHash hinvoice
    -- nothing here changes the swap that was read, nor who is watched
    let Same : World → Prop := fun s => s.heap ref = w.heap ref ∧ s.lnwatcherCallbacks = w.lnwatcherCallbacks
    have hsame : ∀ {α : Type} {p : PyM α}, (∀ w₁, Keeps (SwapsSame w₁) p) → Keeps Same p :=
      fun hp => Keeps.of_rel hp SwapsSame.refl fun _ _ hst hs =>
        ⟨by rw [hst.heap]; exact hs.1, hst.lnwatcherCallbacks.trans hs.2⟩
    have hover : ∀ s : World, Same s → Over w₀ ref (w.heap ref) s := by
      intro s hs
      refine ⟨hs.1, .inl htracked, fun hreverse => ?_⟩
      rw [hw.isReverse] at hreverse
      cases hreverse
    have hdrop : ∀ s : World, Same s → MayDrop a s (hex (w.heap ref).paymentHash) := by
      intro s hs
      obtain ⟨address', hwatched⟩ := hw.watched
      refine ⟨⟨env, address, ha⟩, ref, .inr ⟨address', ?_⟩, ?_, ?_⟩
      · rw [hs.2]
        exact hwatched
      · rw [hs.1]
        exact hw.isReverse
      · rw [hs.1]
    refine Walks.bind (U := fun _ => Same) ?_ fun _ =>
      Walks.bind (U := fun _ => Same) ((moves_deleteHoldInvoice env ha _ _).and
        (hsame fun w₁ => same_deleteHoldInvoice env w₁ _ _)) fun _ =>
      Walks.bind (U := fun _ => Same) ?_ fun _ =>
      Walks.bind (U := fun _ => Same) ((Walks.and (walks_deletePaymentInfo env _ _)
        (hsame fun w₁ => same_deletePaymentInfo env w₁ _ _)).conseq (fun s hs => ⟨hdrop s hs, hs⟩)
          fun _ _ hs => hs.2) fun _ =>
      Walks.bind ((walks_removeCallback ref (w.heap ref)).pre hover) fun _ =>
      Walks.bind (walks_popSwapOrRaise ref (w.heap ref)) fun _ => moves_dbWrite env
    · refine (Walks.and (P := fun s => s = w) ((moves_settleInvoice _).forget.pre fun s hs => ?_)
        (hsame fun w₁ => same_settleInvoice w₁ _ _)).conseq (fun s hs => ⟨hs, by rw [hs], by rw [hs]⟩)
          fun _ _ hs => hs.2
      subst hs
      rw [hk]
      exact ⟨.claim env address ref ha rfl, hinvoice⟩
    · split
      · exact (moves_deleteHoldInvoice env ha _ _).and
          (hsame fun w₁ => same_deleteHoldInvoice env w₁ _ _)
      · exact Walks.pure fun _ hs => hs

theorem Watched.assign {f : SwapData → SwapData} {s : World} (hs : Watched ref isReverse s)
    (hf : Assignment (s.heap ref) f) :
    Move a w₀ s (s.assign ref f) ∧ Watched ref isReverse (s.assign ref f) := by
  refine ⟨Move.assign s ref f env address ha hf (.inr hs.watched), ?_, ?_⟩
  · rw [World.assign_lnwatcherCallbacks]
    exact hs.watched
  · rw [World.assign_heap_self, hf.isReverse]
    exact hs.isReverse

theorem walks_assign {f : SwapData → SwapData} (hf : ∀ swap, Assignment swap f) :
    Walks (Move a w₀) (Watched ref isReverse) (modify (World.assign ref f) : PyM PUnit)
      fun _ => Watched ref isReverse :=
  Walks.modify fun _ hs => hs.assign env ha (hf _)

/-- The refund and the claim. -/
theorem walks_takeRefund (txin : PartialTxInput) (remaining_time conf : Int) (outcome : SpendOutcome) :
    Walks (Move a w₀) (fun s => ∀ b, outcome = .goOn b → Watched ref isReverse s)
      (takeRefund env ref txin remaining_time conf outcome) fun _ _ => True := by
  cases outcome with
  | finished => exact Walks.pure fun _ _ => trivial
  | refunded => exact Walks.pure fun _ _ => trivial
  | goOn b =>
    refine Walks.pre (S := Watched ref isReverse) (fun s₀ => ?_) fun s hs => hs b rfl
    refine (keeps_takeRefund
      (I := fun s => Relation.ReflTransGen (Move a w₀) s₀ s ∧ Watched ref isReverse s)
      env txin (fun t => ?_) (fun tx => ?_) remaining_time conf (.goOn b)).conseq (fun _ hs => hs)
      (fun _ _ hs => ⟨hs.1, trivial⟩) fun _ _ hs => hs.1
    · refine Keeps.modify fun s hs => ?_
      have hassigned : ∀ {f}, Assignment (s.heap ref) f → Move a w₀ s (s.assign ref f) ∧
          Watched ref isReverse (s.assign ref f) := fun hf => hs.2.assign env ha hf
      obtain ⟨hmove, hwatched⟩ := hassigned (.spendingTxid t)
      exact ⟨hs.1.tail hmove, hwatched⟩
    · exact Keeps.modify fun s hs => ⟨hs.1.tail (Move.say s _ trivial), hs.2.watched, hs.2.isReverse⟩

theorem walks_claimNormal (htracked : w₀.Tracks ref) (txin : PartialTxInput)
    (remaining_time conf : Int) :
    Walks (Move a w₀) (Watched ref false) (claimNormal env ref txin remaining_time conf)
      fun _ _ => True := by
  unfold claimNormal
  refine Walks.get fun w hw => Walks.bind (U := fun outcome s =>
    ∀ b, outcome = SpendOutcome.goOn b → Watched ref false s) ?_ fun outcome =>
    walks_takeRefund env ha txin remaining_time conf outcome
  split
  · next spent_height hnone _ =>
    refine Walks.pre (S := fun s => Watched ref false s ∧ (s.heap ref).preimage = none) ?_
      fun s hs => hs ▸ ⟨hw, hnone⟩
    unfold inspectSpend
    refine Walks.get fun w hw => walks_orRaise fun _ _ => walks_orRaise fun _ _ =>
      walks_orRaise fun _ _ => Walks.bind
        (U := fun _ s => Watched ref false s ∧ (s.heap ref).preimage = none) ?_ fun extracted => ?_
    · exact ((moves_liftExcept _).and (keeps_liftExcept _)).pre fun s hs => hs ▸ hw
    · cases extracted with
      | some preimage =>
        exact Walks.bind (U := fun _ => Watched ref false)
          (Walks.modify fun s hs => hs.1.assign env ha (.preimage preimage hs.2)) fun _ =>
          Walks.bind (walks_finishNormalSwap env ha htracked) fun _ =>
          Walks.pure fun _ _ b hb => nomatch hb
      | none =>
        refine Walks.pre (S := Watched ref false) ?_ fun s hs => hs.1
        refine Walks.ite (fun _ => ?_) fun _ => Walks.ite (fun _ => walks_orRaise fun _ _ =>
          Walks.pure fun _ hs _ _ => hs) fun _ => Walks.pure fun _ hs _ _ => hs
        exact Walks.bind (walks_assign env ha fun _ => .isRedeemed) fun _ =>
          Walks.bind ((walks_failSwap env ref).pre fun s _ => .inl htracked) fun _ =>
          Walks.pure fun _ _ b hb => nomatch hb
  · exact Walks.pure fun s hs _ _ => hs ▸ hw

theorem walks_claimReverse (txin : PartialTxInput) (remaining_time conf : Int) :
    Walks (Move a w₀) (Watched ref true) (claimReverse env ref txin remaining_time conf)
      fun _ _ => True := by
  have hhashes : a.hashes = [] := by rw [ha]; rfl
  unfold claimReverse
  refine Walks.get fun w hw => Walks.bind (U := fun _ => Watched ref true) ?_ fun _ =>
    Walks.get fun w hw => Walks.ite (fun hnone => ?_) fun _ =>
      Walks.ite (fun _ => Walks.pure fun _ _ => trivial) fun _ => ?_
  · split
    · exact Walks.pure fun s hs => hs ▸ hw
    · next hnone =>
      refine Walks.bind ((moves_getPreimage _).and (keeps_getPreimage (I := (· = w)) _)) fun preimage => ?_
      cases preimage with
      | some preimage =>
        refine Walks.modify fun s hs => ?_
        subst hs
        exact hw.assign env ha (.preimage preimage hnone)
      | none =>
        -- `None` for `None`
        have hsame : w.assign ref (fun swap => { swap with preimage := none }) = w := by
          apply World.assign_of_eq
          show { w.heap ref with preimage := none } = w.heap ref
          rw [← hnone]
        refine Walks.modify fun s hs => ?_
        subst hs
        rw [hsame]
        exact ⟨Move.count s s.db.calls, hw⟩
  · unfold queuePayment
    refine Walks.get fun w' hw' => Walks.ite (fun _ => Walks.pure fun _ _ => trivial) fun _ => ?_
    subst hw'
    split
    · exact Walks.throw
    · next toPay htoPay =>
      refine Walks.ite (fun _ => Walks.modify fun s hs => ?_) fun _ =>
        Walks.ite (fun _ => Walks.pure fun _ _ => trivial) fun _ => Walks.modify fun s hs => ?_
      · subst hs
        exact ⟨Move.popToPay s _ toPay htoPay, trivial⟩
      · subst hs
        exact ⟨Move.setToPay s _ toPay 0 htoPay hhashes (.inr (.inr ⟨ref, .inr hw.watched, hw.isReverse,
          Option.isNone_iff_eq_none.mp hnone⟩)), trivial⟩
  · refine Walks.pre (S := Watched ref true) (fun s₀ => ?_) fun s hs => hs ▸ hw
    refine (keeps_broadcastClaim
      (I := fun s => Relation.ReflTransGen (Move a w₀) s₀ s ∧ Watched ref true s)
      env txin (fun t => ?_) (fun tx => ?_) conf).conseq (fun _ hs => hs)
      (fun _ _ hs => ⟨hs.1, trivial⟩) fun _ _ hs => hs.1
    · refine Keeps.modify fun s hs => ?_
      have hassigned : ∀ {f}, Assignment (s.heap ref) f → Move a w₀ s (s.assign ref f) ∧
          Watched ref true (s.assign ref f) := fun hf => hs.2.assign env ha hf
      obtain ⟨hmove, hwatched⟩ := hassigned (.spendingTxid t)
      exact ⟨hs.1.tail hmove, hwatched⟩
    · exact Keeps.modify fun s hs => ⟨hs.1.tail (Move.say s _ trivial), hs.2.watched, hs.2.isReverse⟩

theorem walks_claimSwap (htracked : w₀.Tracks ref) :
    Walks (Move a w₀) (Watched ref isReverse) (claimSwap env ref) fun _ _ => True := by
  unfold claimSwap
  refine walks_orRaise fun upToDate _ => Walks.ite (fun _ => ?_) fun _ => Walks.pure fun _ _ => trivial
  refine walks_orRaise fun current_height _ => Walks.get fun w hw => walks_orRaise fun txos _ =>
    Walks.bind (U := fun _ => Watched ref isReverse) ?_ fun selected => ?_
  · exact ((moves_liftExcept _).and (S := Watched ref isReverse) (keeps_liftExcept _)).pre
      fun s hs => hs ▸ hw
  · cases selected with
    | none =>
      exact Walks.ite (fun _ => (walks_failSwap env ref).pre fun s _ => .inl htracked)
        fun _ => Walks.pure fun _ _ => trivial
    | some txin =>
      unfold claimSelected claimFunded
      refine Walks.bind (walks_assign env ha fun _ => .fundingTxid _) fun _ =>
        Walks.bind (U := fun _ => Watched ref isReverse) ?_ fun _ => walks_orRaise fun _ _ =>
        Walks.bind (U := fun _ => Watched ref isReverse)
          (Walks.ite (fun _ => walks_assign env ha fun _ => .spendingTxid _)
            fun _ => Walks.pure fun _ hs => hs) fun _ => ?_
      · unfold addOrReindexSwap
        refine Walks.get fun w hw => Walks.ite (fun _ => Walks.pure fun s hs => hs ▸ hw)
          fun hc => Walks.modify fun s hs => ?_
        subst hs
        refine ⟨Move.setSwap s ref (by simpa using hc) (.inr ⟨.inr hw.watched, env, address, ha⟩),
          hw.watched, ?_⟩
        show (Function.update s.heap ref { s.heap ref with db := true } ref).isReverse = isReverse
        rw [Function.update_self]
        exact hw.isReverse
      · unfold claimLocated
        refine Walks.get fun w hw => Walks.ite (fun _ => ?_) fun _ => Walks.ite (fun hreverse => ?_)
          fun hnormal => ?_
        · exact Walks.bind ((walks_assign env ha fun _ => .isRedeemed).pre fun s hs => hs ▸ hw)
            fun _ => (walks_deleteFinishedReverseSwap env ref).pre fun s _ => .inl htracked
        · exact (walks_claimReverse env ha _ _ _).pre fun s hs => hs ▸ ⟨hw.watched, hreverse⟩
        · exact (walks_claimNormal env ha htracked _ _ _).pre
            fun s hs => hs ▸ ⟨hw.watched, by simpa using hnormal⟩

theorem walks_claimAddress :
    Walks (Move a w₀) (· = w₀) (claimAddress env address) fun _ _ => True := by
  unfold claimAddress
  refine Walks.get fun w hw => ?_
  split
  · next ref href =>
    have htracked : w₀.Tracks ref := .inr ⟨address, hw ▸ href⟩
    refine Walks.pre (S := Watched ref (w.heap ref).isReverse) (walks_claimSwap env ha htracked)
      fun s hs => ?_
    subst hs
    exact ⟨⟨address, href⟩, rfl⟩
  · exact Walks.pure fun _ _ => trivial

end Claim

/-! ## The start -/

theorem walks_initSwapManager :
    Walks (Move a w₀) (fun s => s = w₀ ∧ s.managed = false) initSwapManager fun _ _ => True := by
  let P : World → Prop := fun s => s.heap = w₀.heap ∧
    ∀ k ref, s.swaps.get? k = some ref → w₀.swaps.get? k = some ref
  unfold initSwapManager
  refine Walks.get fun w hw => ?_
  obtain ⟨rfl, hstage⟩ := hw
  refine Walks.post (T := fun _ => P) ?_ fun _ _ _ => trivial
  refine Walks.pre (S := P) ?_ fun s hs => hs ▸ ⟨rfl, fun _ _ h => h⟩
  refine Walks.forM (P := fun _ => P) fun item items hsuffix => Walks.get fun s hs =>
    Walks.ite (fun hnormal => ?_) fun _ => Walks.pure fun s' hs' => hs' ▸ hs
  have hstored := Dict.get?_of_mem (hsuffix.mem List.mem_cons_self)
  have hreverse : (w.heap item.2).isReverse = false := by
    rw [hs.1] at hnormal
    simpa using (Bool.and_eq_true_iff.mp hnormal).1
  refine Walks.ite (fun _ => ?_) fun _ => ?_
  · exact Walks.modify fun s' hs' =>
      ⟨Move.registerStored s' item.1 item.2 hstored hreverse, hs' ▸ hs⟩
  · refine Walks.modify fun s' hs' => ?_
    subst hs'
    have hkept := Quiet.popSwap item.1 s'
    refine ⟨Move.popSwap s' _ (.orphaned hstage fun ref href => ?_), hkept.heap.trans hs.1,
      fun k ref href => hs.2 k ref (hkept.swaps k ref href)⟩
    have heq := hs.2 _ _ href
    rw [hstored] at heq
    cases heq
    rw [hs.1]
    exact hreverse

theorem walks_mainLoop : Walks (Move a w₀) (fun s => s = w₀ ∧ s.managed = true ∧
    s.invoicesToPay = none) mainLoop fun _ _ => True := by
  unfold mainLoop
  refine Walks.get fun w hw => ?_
  obtain ⟨rfl, hstage⟩ := hw
  refine Walks.bind (U := fun _ s => s.swaps = w.swaps) ?_ fun _ =>
    Walks.modify fun s _ => ⟨Move.startPaying s hstage, trivial⟩
  refine Walks.pre (S := fun s => s.swaps = w.swaps) ?_ fun s hs => by rw [hs]
  refine Walks.forM (P := fun _ (s : World) => s.swaps = w.swaps) fun item items hsuffix =>
    Walks.ite (fun _ => Walks.pure fun _ hs => hs) fun _ => Walks.modify fun s hs => ⟨?_, hs⟩
  have hstored := Dict.get?_of_mem (hsuffix.mem List.mem_cons_self)
  exact Move.watch s item.2 (.inl ⟨item.1, by rw [hs]; exact hstored⟩) (.inl hstage.1)

end Swaps

/-! ## Steps -/

/-- **Every step but the callback pass and the restarts is made of moves.** -/
theorem walks_programOf (a : Action) (w₀ : World) (ha : ∀ env, a ≠ .callbacks env)
    (hrestart : ¬ a.Restarts) :
    Walks (Move a w₀) (· = w₀) (programOf a) fun _ _ => True := by
  cases a with
  | request env r =>
    refine Walks.get fun w hw => Walks.ite (fun hrun => ?_) fun _ => Walks.pure fun _ _ => trivial
    exact (walks_handleRequest rfl (hw ▸ hrun)).pre fun s hs => hs.trans hw
  | htlc env forward payment_secret r => exact (moves_pluginHtlcAcceptedHook env rfl _ _).walks
  | expiry env => exact (moves_monitorExpiries rfl).walks
  | callbacks env => exact absurd rfl (ha env)
  | claim env address => exact walks_claimAddress env rfl
  | updatePairs env => exact Walks.modify fun s _ => ⟨Move.setPairs s _, trivial⟩
  | rehash k order => exact Walks.modify fun s _ => ⟨Move.reorderHtlcs s k order rfl, trivial⟩
  | payPending env => exact walks_payPendingLnInvoices env
  | payTask env n result => exact walks_payTaskStep env rfl
  | reload env => exact absurd trivial hrestart
  | crash env n => exact absurd trivial hrestart
  | initSwapManager =>
    refine Walks.get fun w hw => Walks.ite (fun hstage => ?_) fun _ => Walks.pure fun _ _ => trivial
    refine Walks.bind (walks_initSwapManager.pre fun s hs => ⟨hs.trans hw, ?_⟩) fun _ =>
      Moves.modify fun s => Move.manage s
    rw [hs]
    simpa using hstage
  | mainLoop =>
    refine Walks.get fun w hw => Walks.ite (fun hstage => ?_) fun _ => Walks.pure fun _ _ => trivial
    have hboth := Bool.and_eq_true_iff.mp hstage
    refine walks_mainLoop.pre fun s hs => ⟨hs.trans hw, ?_, ?_⟩
    · rw [hs]
      exact hboth.1
    · rw [hs]
      have hrunning : w.running = false := by simpa using hboth.2
      unfold World.running at hrunning
      simpa using hrunning

end

end SubswapProvider
