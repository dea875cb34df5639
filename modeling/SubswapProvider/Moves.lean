import SubswapProvider.Frame

/-!
# What a step can do

Every change a step makes to the process is one of the moves below, with what is known when it is
made. An invariant is checked here move by move; that the programs make no other changes is shown
once, in `Walking.lean`. Two changes are left out. A restart puts a new process in the place of the
old one. When the funding transaction is sent, what is known is the point of several invariants:
`keeps_callbackHandler` hands it to each of them.

A move belongs to a step: to its action `a`, and to the process `w₀` it started from.
-/

namespace SubswapProvider

open Deployment Effect

/-- A document a restart could find: it is in the datastore, or would be after one more write. -/
def World.Image (w : World) (d : Doc) : Prop :=
  w.db.disk = some d ∨ w.db.queued = some d ∨ w.doc = d

/-- `request.set_result(res)`, whether it raises or not. -/
def World.answered (request : Request) (res : HookResult) (w : World) : World :=
  if w.Answered request then w.say (.refused request res) else w.say (.answer request res)

/-- The request of a hook call. -/
def Action.hookRequest? : Action → Option Request
  | .htlc _ _ _ r => some r
  | _ => none

/-- An event that neither answers a request nor has to do with paying. -/
def Event.Plain : Event → Prop
  | .answer _ _ | .refused _ _ | .createFundingTx _ _ _ | .sendpsbt _ _ _ | .payInvoice _ _ _ => False
  | _ => True

/-- Pop an invoice and store another one under the same payment hash. -/
def World.replaceHold (k : Hex) (invoice : HoldInvoice) (w : World) : World :=
  (w.popHoldInvoice k).setHoldInvoice invoice

/-- Nothing changed since the last write that went through. -/
def Db.Clean (db : Db) : Prop := db.pending = false ∨ db.modified = false

section

variable [Deployment]

/-! ## What is known -/

/-- A hold invoice as `b11invoice_from_hash` makes it. -/
structure FreshInvoice (a : Action) (invoice : HoldInvoice) : Prop where
  pair : ∃ h p, a.pair? = some (h, p) ∧ (invoice.paymentHash = h ∨ invoice.paymentHash = p)
  htlcs : invoice.incomingHtlcs = ∅
  status : invoice.fundingStatus = .unfunded
  associated : invoice.associatedInvoice = none

/-- A swap as `add_normal_swap` and `add_reverse_swap` make it. -/
structure NewSwap (a : Action) (swap : SwapData) : Prop where
  db : swap.db = false
  fundingTxid : swap.fundingTxid = none
  normal : swap.isReverse = false →
    ∃ p, a.pair? = some (swap.paymentHash, p) ∧ swap.prepayHash = some p
  reverse : swap.isReverse = true →
    a.reverseHash? = some swap.paymentHash ∧ swap.preimage.isSome = true
  locktime : ∃ env r height, a = .request env r ∧ env.localHeight = some height ∧
    swap.locktime = height + LOCKTIME_DELTA_REFUND

/-- A hold invoice may be settled: it is the prepay invoice of a funded one, or the invoice of a swap
whose preimage has come out. -/
inductive MaySettle (a : Action) (w : World) (k : Hex) : Prop
  | prepay (env : Env) (main : HoldInvoice) (p : Bytes) (ha : a = .callbacks env)
      (hmain : w.holdInvoices.get? (hex main.paymentHash) = some main)
      (hfunded : main.fundingStatus = .funded) (hassoc : main.associatedInvoice = some p)
      (hk : k = hex p)
  | claim (env : Env) (address : Address) (ref : SwapRef) (ha : a = .claim env address)
      (hk : k = hex (w.heap ref).paymentHash)

/-- An HTLC may get this state and this answer. -/
inductive MayResolve (a : Action) (w : World) (k : Hex) (invoice : HoldInvoice) (request : Request) :
    HtlcState → HookResult → Prop
  | settle (preimage : Bytes) (h : MaySettle a w k) :
      MayResolve a w k invoice request .settled (.resolve preimage)
  /-- It is turned down by the hook it came with. -/
  | reject (h : a.hookRequest? = some request) :
      MayResolve a w k invoice request .cancelled (.fail "400F")
  /-- Its invoice has expired. -/
  | cancel (env : Env) (ha : a = .expiry env) (hstatus : invoice.fundingStatus ≠ .funded ∧
      invoice.fundingStatus ≠ .settled) : MayResolve a w k invoice request .cancelled (.fail "400F")

/-- A hold invoice may be popped: it has expired and holds no HTLC any more, a second prepay invoice
was refused, or its swap is finished. -/
inductive MayPop (a : Action) (w : World) (k : Hex) : Prop
  | expired (env : Env) (ha : a = .expiry env) (hnone : ∀ inv, w.holdInvoices.get? k = some inv →
      ∀ h ∈ inv.incomingHtlcs, h.state ≠ .accepted)
  | refused (h p : Bytes) (ha : a.pair? = some (h, p)) (hk : k = hex h) (hsome : ∀ inv,
      w.holdInvoices.get? k = some inv → inv.associatedInvoice.isSome = true)
  | finished (env : Env) (address : Address) (ha : a = .claim env address)

/-- A swap object that is stored, or watched. -/
def World.Tracks (w : World) (ref : SwapRef) : Prop :=
  (∃ k, w.swaps.get? k = some ref) ∨ ∃ address, w.lnwatcherCallbacks.get? address = some ref

/-- A preimage may be popped: that of a normal swap that is finished. -/
structure MayDrop (a : Action) (w : World) (k : Hex) : Prop where
  claim : ∃ env address, a = .claim env address
  swap : ∃ ref, w.Tracks ref ∧ (w.heap ref).isReverse = false ∧ k = hex (w.heap ref).paymentHash

/-- A swap object that was tracked when the step began, or is stored. -/
def World.Had (w₀ : World) (ref : SwapRef) (w : World) : Prop :=
  w₀.Tracks ref ∨ ∃ k, w.swaps.get? k = some ref

/-- A swap may be popped: it is over, nobody watches its address, and the invoice of a reverse swap is
gone; or it is a normal one whose hold invoice was not found at the start. -/
inductive MayForget (w₀ w : World) (k : Hex) : Prop
  | ended (ref : SwapRef) (hk : k = hex (w.heap ref).paymentHash) (hhad : w₀.Had ref w)
      (hunwatched : w.lnwatcherCallbacks.get? (w.heap ref).lockupAddress = none)
      (hunpaid : (w.heap ref).isReverse = true → w.invoices.contains k = false)
  | orphaned (hstage : w₀.managed = false)
      (hnormal : ∀ ref, w.swaps.get? k = some ref → (w.heap ref).isReverse = false)

/-- The assignments to a swap object. -/
inductive Assignment (swap : SwapData) : (SwapData → SwapData) → Prop
  | fundingTxid (t : Option Txid) : Assignment swap fun swap => { swap with fundingTxid := t }
  | spendingTxid (t : Option Txid) : Assignment swap fun swap => { swap with spendingTxid := t }
  | isRedeemed : Assignment swap fun swap => { swap with isRedeemed := true }
  | preimage (x : Bytes) (h : swap.preimage = none) :
      Assignment swap fun swap => { swap with preimage := some x }

/-- The outgoing payments under way for `key`. -/
def World.Paying (w : World) (key : Hex) : Prop :=
  (∃ toPay, w.invoicesToPay = some toPay ∧ toPay.contains key = true) ∨
  .spawned key ∈ w.payTasks ∨ ∃ invoice, .paying key invoice ∈ w.payTasks

/-! ## The moves -/

inductive Move (a : Action) (w₀ : World) : World → World → Prop
  -- the store
  | count (w : World) (n : Nat) : Move a w₀ w { w with db := { w.db with calls := n } }
  | consolidate (w : World) : Move a w₀ w w.consolidate
  | append (w : World) : Move a w₀ w w.append
  -- the other tables of `CLNLightning`
  | setPreimage (w : World) (k : Hex) (v : Bytes) : Move a w₀ w (w.setPreimage k v)
  | popPreimage (w : World) (k : Hex) (h : MayDrop a w k) : Move a w₀ w (w.popPreimage k)
  | setInvoice (w : World) (k : Hex) (v : Invoice) (h : w.swaps.contains k = true) :
      Move a w₀ w (w.setInvoice k v)
  | popInvoice (w : World) (k : Hex) : Move a w₀ w (w.popInvoice k)
  -- hold invoices
  | createHold (w : World) (invoice : HoldInvoice) (h : FreshInvoice a invoice)
      (hfirst : w = w₀ ∨ ∃ main, a.pair? = some (main, invoice.paymentHash)) :
      Move a w₀ w (w.setHoldInvoice invoice)
  | updateHold (w : World) (k : Hex) (invoice : HoldInvoice)
      (hinvoice : w.holdInvoices.get? k = some invoice) :
      Move a w₀ w (w.replaceHold k invoice)
  | bundle (w : World) (k : Hex) (invoice : HoldInvoice) (p : Bytes)
      (hinvoice : w.holdInvoices.get? k = some invoice) (hnone : invoice.associatedInvoice = none)
      (hpair : a.pair? = some (invoice.paymentHash, p)) :
      Move a w₀ w (w.replaceHold k { invoice with associatedInvoice := some p })
  | popHold (w : World) (k : Hex) (h : MayPop a w k) :
      Move a w₀ w (w.popHoldInvoice k)
  -- HTLCs
  | replayHtlc (w : World) (invoice : HoldInvoice) (request : Request) (existing : Htlc)
      (ha : a.hookRequest? = some request)
      (hinvoice : w.getHoldInvoice request.htlc.paymentHash = some invoice)
      (hfind : invoice.findHtlc request.htlc.key = some existing) :
      Move a w₀ w (w.mutHoldInvoice (hex request.htlc.paymentHash)
        (·.setHtlcCallback existing.key request) fun _ => rfl)
  | addHtlc (w : World) (invoice : HoldInvoice) (request : Request) (now : Nat)
      (ha : a.hookRequest? = some request)
      (hinvoice : w.getHoldInvoice request.htlc.paymentHash = some invoice)
      (hfind : invoice.findHtlc request.htlc.key = none) :
      Move a w₀ w (w.mutHoldInvoice (hex request.htlc.paymentHash)
        (·.addHtlc (Htlc.fromClnDict request.htlc request now)) fun _ => rfl)
  | resolveHtlc (w : World) (k : Hex) (invoice : HoldInvoice) (htlc : Htlc) (request : Request)
      (st : HtlcState) (res : HookResult) (hinvoice : w.holdInvoices.get? k = some invoice)
      (hmem : htlc ∈ invoice.incomingHtlcs) (hstate : htlc.state = .accepted)
      (hrequest : htlc.requestCallback = some request)
      (hres : MayResolve a w k invoice request st res) :
      Move a w₀ w ((w.mutHoldInvoice k (·.setHtlcState htlc.key st) fun _ => rfl).answered request
        res)
  | fund (w : World) (k : Hex) (invoice : HoldInvoice) (request : Request)
      (ha : a.hookRequest? = some request) (hk : k = hex request.htlc.paymentHash)
      (hinvoice : w.holdInvoices.get? k = some invoice) (hfull : invoice.isFullyFunded = true)
      (hstatus : invoice.fundingStatus = .unfunded) :
      Move a w₀ w (w.mutHoldInvoice k (·.setFundingStatus .funded) fun _ => rfl)
  | failInvoice (w : World) (k : Hex) (invoice : HoldInvoice) (env : Env) (ha : a = .expiry env)
      (hinvoice : w.holdInvoices.get? k = some invoice)
      (hstatus : invoice.fundingStatus ≠ .funded ∧ invoice.fundingStatus ≠ .settled) :
      Move a w₀ w (w.mutHoldInvoice k (·.setFundingStatus .failed) fun _ => rfl)
  | settleInvoice (w : World) (k : Hex) (invoice : HoldInvoice) (h : MaySettle a w k)
      (hinvoice : w.holdInvoices.get? k = some invoice) (hfull : invoice.isFullyFunded = true)
      (hnone : ∀ h ∈ invoice.incomingHtlcs, h.state ≠ .accepted) :
      Move a w₀ w (w.mutHoldInvoice k (·.setFundingStatus .settled) fun _ => rfl)
  | reorderHtlcs (w : World) (k : Hex) (order : List Htlc) (ha : a = .rehash k order) :
      Move a w₀ w (w.mutHoldInvoice k (·.reorderHtlcs order) fun _ => rfl)
  -- callbacks of hold invoices
  | registerNew (w : World) (h p : Bytes) (ha : a.pair? = some (h, p))
      (hswap : w.swaps.contains (hex h) = true) :
      Move a w₀ w { w with holdInvoiceCallbacks :=
        w.holdInvoiceCallbacks.set (hex h) .holdInvoiceCallback }
  | registerStored (w : World) (k : Hex) (ref : SwapRef) (hswap : w₀.swaps.get? k = some ref)
      (hnormal : (w₀.heap ref).isReverse = false) :
      Move a w₀ w { w with holdInvoiceCallbacks :=
        w.holdInvoiceCallbacks.set k .holdInvoiceCallback }
  | unregister (w : World) (k : Hex) :
      Move a w₀ w { w with holdInvoiceCallbacks := w.holdInvoiceCallbacks.pop k }
  -- swaps
  | allocSwap (w : World) (swap : SwapData) (h : NewSwap a swap) (hfirst : w.nextRef = w₀.nextRef) :
      Move a w₀ w (w.allocSwap swap)
  | setSwap (w : World) (ref : SwapRef)
      (hnew : w.swaps.contains (hex (w.heap ref).paymentHash) = false)
      (htracks : (ref + 1 = w.nextRef ∧ NewSwap a (w.heap ref) ∧ ((w.heap ref).isReverse = false →
          ∀ d, w.Image d → ∀ inv, d.holdInvoices.get? (hex (w.heap ref).paymentHash) = some inv →
            inv.associatedInvoice.isSome = true)) ∨
        (w.Tracks ref ∧ ∃ env address, a = .claim env address)) :
      Move a w₀ w (w.setSwap (hex (w.heap ref).paymentHash) ref)
  | popSwap (w : World) (k : Hex) (h : MayForget w₀ w k) : Move a w₀ w (w.popSwap k)
  | assign (w : World) (ref : SwapRef) (f : SwapData → SwapData) (env : Env) (address : Address)
      (ha : a = .claim env address) (hf : Assignment (w.heap ref) f) (htracks : w.Tracks ref) :
      Move a w₀ w (w.assign ref f)
  | watch (w : World) (ref : SwapRef) (h : (∃ k, w.swaps.get? k = some ref) ∨
        (ref < w.nextRef ∧ w.swaps.contains (hex (w.heap ref).paymentHash) = true))
      (hstage : w₀.managed = true ∨ w₀.running = true) :
      Move a w₀ w { w with
        lnwatcherCallbacks := w.lnwatcherCallbacks.set (w.heap ref).lockupAddress ref }
  | unwatch (w : World) (address : Address) :
      Move a w₀ w { w with lnwatcherCallbacks := w.lnwatcherCallbacks.pop address }
  -- outgoing payments
  | startPaying (w : World) (h : w₀.managed = true ∧ w₀.invoicesToPay = none) :
      Move a w₀ w { w with invoicesToPay := some ∅ }
  | setToPay (w : World) (key : Hex) (toPay : Dict Hex Nat) (t : Nat)
      (htoPay : w.invoicesToPay = some toPay) (ha : a.hashes = [])
      (h : w₀.Paying key ∨ (w.db.Clean ∧ (w.swaps.get? key).isSome) ∨ ∃ ref, w.Tracks ref ∧
        (w.heap ref).isReverse = true ∧ (w.heap ref).preimage = none) :
      Move a w₀ w { w with invoicesToPay := some (toPay.set key t) }
  | popToPay (w : World) (key : Hex) (toPay : Dict Hex Nat) (htoPay : w.invoicesToPay = some toPay) :
      Move a w₀ w { w with invoicesToPay := some (toPay.pop key) }
  | setTasks (w : World) (tasks : List PayTask)
      (h : ∀ task ∈ tasks, task ∈ w.payTasks ∨ ∃ key, w₀.Paying key ∧
        (task = .spawned key ∨ ∃ invoice, task = .paying key invoice)) :
      Move a w₀ w { w with payTasks := tasks }
  | payInvoice (w : World) (key : Hex)
      (ha : ∃ env n result, a = .payTask env n result ∧ w₀.payTasks[n]? = some (.spawned key))
      (hsame : w.db = w₀.db ∧ w.invoices = w₀.invoices) (h : w₀.Paying key)
      (hinvoice : w.invoices.contains key = true) :
      Move a w₀ w (w.say (.payInvoice key (w.swap? key) (w.storedSwap? key)))
  -- the rest
  | setPairs (w : World) (pairs : Option Pairs) : Move a w₀ w { w with pairs := pairs }
  | manage (w : World) : Move a w₀ w { w with managed := true }
  | answerHook (w : World) (request : Request) (res : HookResult)
      (ha : a.hookRequest? = some request) : Move a w₀ w (w.answered request res)
  | say (w : World) (e : Event) (he : e.Plain) : Move a w₀ w (w.say e)

end

/-! ## The store after a change of an invoice -/

section

variable {w : World} {k : Hex} {invoice : HoldInvoice}

theorem World.replaceHold_eq (hlive : (w.holdInvoices.get? k).isSome = true)
    (hk : hex invoice.paymentHash = k) :
    w.replaceHold k invoice = { w with
      holdInvoices := (w.holdInvoices.pop k).set invoice
      db := (w.db.addPatch fun d =>
        if (d.holdInvoices.get? k).isSome then
          some { d with holdInvoices := d.holdInvoices.pop k }
        else none).addPatch fun d =>
          some { d with holdInvoices := d.holdInvoices.set invoice.stored } } := by
  unfold World.replaceHold World.popHoldInvoice
  rw [if_pos hlive]
  unfold World.setHoldInvoice
  dsimp only
  rw [hk, HoldInvoices.get?_pop, if_pos rfl, if_neg (by simp)]
  rfl

theorem HoldInvoices.get?_replace {t : HoldInvoices} (hk : hex invoice.paymentHash = k) (k' : Hex) :
    ((t.pop k).set invoice).get? k' = if k' = k then some invoice else t.get? k' := by
  rw [HoldInvoices.get?_set, HoldInvoices.get?_pop, hk]
  split
  · rfl
  · rfl

/-- The queued document after it, if there is one. -/
theorem World.replaceHold_queued (hlive : (w.holdInvoices.get? k).isSome = true)
    (hk : hex invoice.paymentHash = k) {d : Doc}
    (hd : (w.replaceHold k invoice).db.queued = some d) :
    ∃ d₀, w.db.queued = some d₀ ∧
      d = { d₀ with holdInvoices := (d₀.holdInvoices.pop k).set invoice.stored } := by
  rw [World.replaceHold_eq hlive hk] at hd
  obtain ⟨d₁, hd₁, hset⟩ := Option.bind_eq_some_iff.mp hd
  obtain ⟨d₀, hd₀, hpop⟩ := Option.bind_eq_some_iff.mp hd₁
  refine ⟨d₀, hd₀, ?_⟩
  split at hpop
  · cases hpop
    cases hset
    rfl
  · cases hpop

/-- What a write stores, when there is something to write. -/
theorem written_dbWrite (env : Env) {Q : Doc → Prop} :
    Triple (fun s => (∀ d, s.db.queued = some d → Q d) ∧ Q s.doc ∧ s.db.pending = true ∧
        s.db.modified = true)
      (dbWrite env) (fun _ s => ∀ d, s.Image d → Q d) fun _ _ => True := by
  unfold dbWrite
  refine Triple.getBind fun w hw => Triple.modifyBind (R := fun s =>
    (∀ d, s.db.queued = some d → Q d) ∧ Q s.doc) (fun s hs => ?_) ?_
  · subst hs
    exact ⟨hw.1, hw.2.1⟩
  rw [if_pos hw.2.2.1, if_pos hw.2.2.2]
  split
  · split
    · exact Triple.throw fun _ _ => trivial
    · refine Triple.modify fun s hs d hd => ?_
      rcases hd with hd | hd | hd
      · cases hd; exact hs.2
      · cases hd; exact hs.2
      · cases hd; exact hs.2
  · split
    · exact Triple.throw fun _ _ => trivial
    · refine Triple.modify fun s hs d hd => ?_
      rcases hd with hd | hd | hd
      · exact hs.1 d hd
      · exact hs.1 d hd
      · cases hd; exact hs.2

/-- After an invoice has been replaced and the store written, every image has it. -/
theorem written_replaceHold (env : Env) (hlive : (w.holdInvoices.get? k).isSome = true)
    (hk : hex invoice.paymentHash = k) :
    Triple (· = w.replaceHold k invoice) (dbWrite env)
      (fun _ s => ∀ d, s.Image d → d.holdInvoices.get? k = some invoice.stored) fun _ _ => True := by
  have hget : ∀ t : HoldInvoices, ((t.pop k).set invoice.stored).get? k = some invoice.stored := by
    intro t
    rw [HoldInvoices.get?_replace (by simpa using hk), if_pos rfl]
  refine (written_dbWrite env).pre fun s hs => ?_
  subst hs
  refine ⟨fun d hd => ?_, ?_, ?_, ?_⟩
  · obtain ⟨d₀, -, rfl⟩ := World.replaceHold_queued hlive hk hd
    exact hget _
  · rw [World.replaceHold_eq hlive hk]
    show ((w.holdInvoices.pop k).set invoice).stored.get? k = some invoice.stored
    rw [HoldInvoices.get?_stored, HoldInvoices.get?_replace hk, if_pos rfl]
    rfl
  · rw [World.replaceHold_eq hlive hk]
    rfl
  · rw [World.replaceHold_eq hlive hk]
    rfl

end

end SubswapProvider
