import SubswapProvider.Walking

/-!
# What a hook call comes to

The four ways `handle_htlc` goes, each as an equation: the HTLC is known and gets its new callback, or
it is new and then the check raises, turns it down, or lets it in.
-/

namespace SubswapProvider

open Effect

section

variable {env : Env} {invoice : HoldInvoice} {payment_secret : Option Bytes}
variable {request : Request} {w : World}

/-- The HTLC of a hook call as it is added. -/
def Request.newHtlc (env : Env) (request : Request) : Htlc :=
  Htlc.fromClnDict request.htlc request env.now

/-- The process with the HTLC of a hook call in the set of its invoice. -/
def World.withHtlc (env : Env) (request : Request) (w : World) : World :=
  w.mutHoldInvoice (hex request.htlc.paymentHash) (·.addHtlc (request.newHtlc env)) fun _ => rfl

/-- The process with that HTLC turned down. -/
def World.withRejected (env : Env) (request : Request) (w : World) : World :=
  (w.withHtlc env request).mutHoldInvoice (hex request.htlc.paymentHash)
    (·.setHtlcState request.htlc.key .cancelled) fun _ => rfl

theorem resolveHtlc_run {k : Hex} {htlc : Htlc} {st : HtlcState} {res : HookResult}
    (hstate : htlc.state = .accepted) (hrequest : htlc.requestCallback = some request) :
    resolveHtlc k htlc st res w =
      setResult request res (w.mutHoldInvoice k (·.setHtlcState htlc.key st) fun _ => rfl) := by
  unfold resolveHtlc
  rw [if_pos hstate, hrequest]
  rfl

theorem World.get?_withHtlc (hinvoice : w.getHoldInvoice request.htlc.paymentHash = some invoice) :
    (w.withHtlc env request).getHoldInvoice request.htlc.paymentHash
      = some (invoice.addHtlc (request.newHtlc env)) := by
  apply (World.get?_mutHoldInvoice _).trans
  rw [if_pos rfl]
  show (w.getHoldInvoice request.htlc.paymentHash).map _ = _
  rw [hinvoice]
  rfl

/-- A known HTLC gets the new request as its callback, whatever state it is in. -/
theorem handleHtlc_known {existing : Htlc} (hhash : invoice.paymentHash = request.htlc.paymentHash)
    (hfind : invoice.findHtlc request.htlc.key = some existing) :
    handleHtlc env invoice payment_secret request w =
      .ok false (w.mutHoldInvoice (hex request.htlc.paymentHash)
        (·.setHtlcCallback existing.key request) fun _ => rfl) := by
  dsimp only [handleHtlc]
  simp only [Htlc.key_fromClnDict, hfind, hhash]
  rfl

theorem handleHtlc_raises {e : PyErr} (hhash : invoice.paymentHash = request.htlc.paymentHash)
    (hfind : invoice.findHtlc request.htlc.key = none)
    (hcheck : checkHtlc env invoice payment_secret request.htlc = .error e) :
    handleHtlc env invoice payment_secret request w = .error e (w.withHtlc env request) := by
  dsimp only [handleHtlc]
  simp only [Htlc.key_fromClnDict, hfind, hhash, hcheck]
  rfl

theorem handleHtlc_rejects (hhash : invoice.paymentHash = request.htlc.paymentHash)
    (hfind : invoice.findHtlc request.htlc.key = none)
    (hcheck : checkHtlc env invoice payment_secret request.htlc = .ok false) :
    handleHtlc env invoice payment_secret request w =
      (setResult request (.fail "400F") >>= fun _ => pure true) (w.withRejected env request) := by
  dsimp only [handleHtlc]
  simp only [Htlc.key_fromClnDict, hfind, hhash, hcheck]
  rfl

theorem handleHtlc_admits (hhash : invoice.paymentHash = request.htlc.paymentHash)
    (hfind : invoice.findHtlc request.htlc.key = none)
    (hcheck : checkHtlc env invoice payment_secret request.htlc = .ok true) :
    handleHtlc env invoice payment_secret request w =
      if (invoice.addHtlc (request.newHtlc env)).isFullyFunded then
        .ok true (((w.withHtlc env request).mutHoldInvoice (hex request.htlc.paymentHash)
          (·.setFundingStatus .funded) fun _ => rfl).say
            (.funded ((invoice.addHtlc (request.newHtlc env)).setFundingStatus .funded)))
      else .ok true (w.withHtlc env request) := by
  dsimp only [handleHtlc]
  simp only [Htlc.key_fromClnDict, hfind, hhash, hcheck]
  unfold Request.newHtlc
  split
  · rfl
  · rfl

/-- An answer that goes through leaves the invoices as they are. -/
theorem setResult_getHoldInvoice {res : HookResult} {changed : Bool} {w' : World}
    {payment_hash : Bytes}
    (h : (setResult request res >>= fun _ => pure true) w = .ok changed w') :
    w'.getHoldInvoice payment_hash = w.getHoldInvoice payment_hash := by
  have hrun := setResult_run request res w
  split at hrun
  · rw [bind_error hrun] at h
    cases h
  · rw [bind_ok hrun] at h
    cases h
    unfold World.getHoldInvoice
    rw [World.answered_holdInvoices]

/-- The invoice of an HTLC that was turned down. -/
theorem World.get?_withRejected
    (hinvoice : w.getHoldInvoice request.htlc.paymentHash = some invoice) :
    (w.withRejected env request).getHoldInvoice request.htlc.paymentHash
      = some ((invoice.addHtlc (request.newHtlc env)).setHtlcState request.htlc.key .cancelled) := by
  apply (World.get?_mutHoldInvoice _).trans
  rw [if_pos rfl]
  show ((w.withHtlc env request).getHoldInvoice request.htlc.paymentHash).map _ = _
  rw [World.get?_withHtlc hinvoice]
  rfl

end

end SubswapProvider
