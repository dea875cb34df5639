import SubswapProvider.Fees

/-!
# Hold invoices at work

`CLNLightning`: the HTLC hook, the expiry pass, the callback pass, and the tables of invoices and
preimages, with the methods of `Htlc` and `HoldInvoice` that answer lightningd.

An invoice or HTLC object is always one of the `hold_invoices` table here, so a method gets the
value it has and changes the object in the table.
-/

namespace SubswapProvider

open Deployment

variable [Deployment]

def MIN_FINAL_CLTV_DELTA_ACCEPTED : Nat := 144

def MIN_FINAL_CLTV_DELTA_FOR_INVOICE : Nat := MIN_FINAL_CLTV_DELTA_ACCEPTED + 3

/-- `get_hold_invoice`, by the bytes of the payment hash. -/
def World.getHoldInvoice (w : World) (payment_hash : Bytes) : Option HoldInvoice :=
  w.holdInvoices.get? (hex payment_hash)

/-! ## Answering HTLCs -/

/-- `request.set_result(res)`: a request takes one result. -/
def setResult (request : Request) (res : HookResult) : PyM Unit := do
  let w ← get
  if w.Answered request then do
    emit (.refused request res)
    throw .ValueError
  else emit (.answer request res)

/-- The shape `fail`, `fail_timeout` and `settle` share: an accepted HTLC with a callback changes
its state, then the callback gets the result. -/
def resolveHtlc (k : Hex) (htlc : Htlc) (st : HtlcState) (res : HookResult) : PyM Unit :=
  if htlc.state = .accepted then
    match htlc.requestCallback with
    | none => throw .AssertionError
    | some request => do
      modify (World.mutHoldInvoice k (·.setHtlcState htlc.key st) fun _ => rfl)
      setResult request res
  else throw .InvalidHtlcState

/-- `Htlc.fail`. -/
def failHtlc (k : Hex) (htlc : Htlc) : PyM Unit := resolveHtlc k htlc .cancelled (.fail "400F")

/-- `Htlc.settle`. -/
def settleHtlc (k : Hex) (htlc : Htlc) (preimage : Bytes) : PyM Unit :=
  resolveHtlc k htlc .settled (.resolve preimage)

/-- `for stored_htlc in self.incoming_htlcs: if stored_htlc.state == ACCEPTED: f(stored_htlc)`. -/
def forAccepted (invoice : HoldInvoice) (f : Htlc → PyM Unit) : PyM Unit :=
  invoice.incomingHtlcs.elems.forM fun stored_htlc =>
    if stored_htlc.state = .accepted then f stored_htlc else pure ()

/-- `cancel_all_htlcs`. -/
def cancelAllHtlcs (invoice : HoldInvoice) : PyM Unit := do
  let k := hex invoice.paymentHash
  forAccepted invoice (failHtlc k)
  modify (World.mutHoldInvoice k (·.setFundingStatus .failed) fun _ => rfl)

/-- `HoldInvoice.settle`; a preimage of `None` cannot be hashed. -/
def settleInvoice (invoice : HoldInvoice) (preimage : Option Bytes) : PyM Unit :=
  match preimage with
  | none => throw .TypeError
  | some preimage => do
    let k := hex invoice.paymentHash
    pyAssert (invoice.paymentHash = sha256 preimage)
    (if invoice.isFullyFunded then pure () else throw .InsufficientFundedInvoiceError)
    forAccepted invoice (settleHtlc k · preimage)
    modify (World.mutHoldInvoice k (·.setFundingStatus .settled) fun _ => rfl)
    emit (.settled invoice.paymentHash preimage)

/-! ## Tables -/

/-- `save_preimage`. -/
def savePreimage (env : Env) (payment_hash preimage : Bytes) : PyM Unit :=
  if sha256 preimage ≠ payment_hash then throw .InvalidPreimageSavedError
  else do
    modify (World.setPreimage (hex payment_hash) preimage)
    dbWrite env

/-- `create_payment_info`. -/
def createPaymentInfo (env : Env) : PyM Bytes := do
  let payment_hash := sha256 env.urandomPreimage
  savePreimage env payment_hash env.urandomPreimage
  pure payment_hash

/-- `get_preimage`. -/
def getPreimage (payment_hash : Bytes) : PyM (Option Bytes) := do
  pyAssert (payment_hash.length = 32)
  let w ← get
  match w.preimages.get? (hex payment_hash) with
  | none => pure none
  | some preimage =>
    if sha256 preimage ≠ payment_hash then throw .InvalidPreimageFoundError
    else pure (some preimage)

/-- `delete_payment_info`; `None` is no key. -/
def deletePaymentInfo (env : Env) (payment_hash : Option Bytes) (write_db : Bool) : PyM Unit := do
  let w ← get
  match payment_hash with
  | none => pure ()
  | some h =>
    if w.preimages.contains (hex h) then do
      modify (World.popPreimage (hex h))
      (if write_db then dbWrite env else pure ())
    else pure ()

/-- `save_invoice`, for a lightning invoice. -/
def saveInvoice (env : Env) (invoice : Invoice) : PyM Unit := do
  modify (World.setInvoice (hex invoice.rhash) invoice)
  dbWrite env

/-- `delete_invoice`. -/
def deleteInvoice (env : Env) (k : Hex) (write_db : Bool) : PyM Unit := do
  let w ← get
  if w.invoices.contains k then do
    modify (World.popInvoice k)
    (if write_db then dbWrite env else pure ())
  else pure ()

/-- `register_hold_invoice_callback`. -/
def registerHoldInvoiceCallback (k : Hex) (callback : HoldInvoiceCallback) : PyM Unit :=
  modify fun w => { w with holdInvoiceCallbacks := w.holdInvoiceCallbacks.set k callback }

/-- `unregister_hold_invoice_callback`. -/
def unregisterHoldInvoiceCallback (k : Hex) : PyM Unit :=
  modify fun w => { w with holdInvoiceCallbacks := w.holdInvoiceCallbacks.pop k }

/-- `save_hold_invoice`. -/
def saveHoldInvoice (env : Env) (invoice : HoldInvoice) : PyM Unit := do
  modify (World.setHoldInvoice invoice)
  dbWrite env

/-- `delete_hold_invoice`. -/
def deleteHoldInvoice (env : Env) (k : Hex) (write_db : Bool) : PyM Unit := do
  unregisterHoldInvoiceCallback k
  let w ← get
  if (w.holdInvoices.get? k).isSome then do
    modify (World.popHoldInvoice k)
    (if write_db then dbWrite env else pure ())
  else pure ()

/-- `update_invoice`: pop the invoice object and store it again. -/
def updateInvoice (env : Env) (payment_hash : Bytes) : PyM Unit := do
  let w ← get
  match w.getHoldInvoice payment_hash with
  | none => throw .KeyError
  | some invoice => do
    modify (World.popHoldInvoice (hex payment_hash))
    modify (World.setHoldInvoice invoice)
    dbWrite env

/-! ## Creating invoices -/

/-- `_get_payment_secret`. -/
def getPaymentSecret (payment_hash : Bytes) : Bytes :=
  sha256 (sha256 config.paymentSecretKey ++ payment_hash)

/-- `b11invoice_from_hash`, with the arguments both of its callers leave at the same value. -/
def b11invoiceFromHash (env : Env) (payment_hash : Bytes) (amount_msat : Int) (message : String)
    (expiry : Nat) : PyM HoldInvoice := do
  pyAssert (0 < amount_msat)
  (if payment_hash.length = 32 then pure () else throw .InvalidInvoiceCreationError)
  let existing ← orRaise .RpcError (env.listinvoices payment_hash)
  (if 0 < existing then throw .DuplicateInvoiceCreationError else pure ())
  let lnaddr : LnAddr := {
    paymenthash := payment_hash
    amountMsat := amount_msat
    minFinalCltvExpiry := MIN_FINAL_CLTV_DELTA_FOR_INVOICE
    description := message
    expiry := expiry
    date := env.now
    paymentSecret := getPaymentSecret payment_hash }
  let signed ← orRaise .Bolt11InvoiceCreationError (env.signinvoice lnaddr)
  let invoice := HoldInvoice.new payment_hash signed amount_msat expiry env.now
  saveHoldInvoice env invoice
  pure invoice

/-- `bundle_payments`, by the payment hashes of the two invoices. -/
def bundlePayments (env : Env) (swap_invoice prepay_invoice : Bytes) : PyM Unit := do
  let w ← get
  match w.getHoldInvoice swap_invoice with
  | none => throw .KeyError
  | some current_invoice => do
    modify (World.popHoldInvoice (hex swap_invoice))
    -- `attach_prepay_invoice` refuses a second prepay invoice, after the pop
    (if current_invoice.associatedInvoice.isSome then throw .DuplicateInvoiceCreationError
      else pure ())
    saveHoldInvoice env { current_invoice with associatedInvoice := some prepay_invoice }

/-- `num_sats_can_receive`. -/
def numSatsCanReceive (env : Env) : Nat :=
  let channels := (env.channels.getD []).filter Channel.connected
  (channels.map fun c => c.amountMsat - c.ourAmountMsat).sum * 9 / 10000

/-- `num_sats_can_send`. -/
def numSatsCanSend (env : Env) : Nat :=
  let channels := (env.channels.getD []).filter Channel.connected
  (channels.map (·.ourAmountMsat)).sum * 9 / 10000

/-! ## The HTLC hook -/

/-- The checks of `handle_htlc` behind the lookup, in order: whether the HTLC is accepted. Each check
that does not pass fails it; a `decodepay` answer without a payment secret raises. -/
def checkHtlc (env : Env) (target_invoice : HoldInvoice) (payment_secret : Option Bytes)
    (incoming_htlc : IncomingHtlc) : Except PyErr Bool :=
  match env.decodepay target_invoice.bolt11 with
  | none => .ok false
  | some decoded_invoice =>
    if target_invoice.fundingStatus = .failed then .ok false
    else if incoming_htlc.cltvExpiryRelative < decoded_invoice.minFinalCltvExpiry ∨
        incoming_htlc.cltvExpiryRelative < MIN_FINAL_CLTV_DELTA_ACCEPTED then .ok false
    else match payment_secret, decoded_invoice.paymentSecret with
      | none, _ => .ok false
      | some _, none => .error .KeyError
      | some secret, some decoded_secret =>
        if secret ≠ decoded_secret then .ok false
        else if target_invoice.fundingStatus ≠ .unfunded then .ok false
        else .ok true

omit [Deployment] in
/-- What an HTLC that passes every check brings with it. -/
theorem checkHtlc_passed {env : Env} {target_invoice : HoldInvoice} {payment_secret : Option Bytes}
    {incoming_htlc : IncomingHtlc}
    (h : checkHtlc env target_invoice payment_secret incoming_htlc = .ok true) :
    target_invoice.fundingStatus = .unfunded ∧
      MIN_FINAL_CLTV_DELTA_ACCEPTED ≤ incoming_htlc.cltvExpiryRelative := by
  unfold checkHtlc at h
  split at h
  · cases h
  · split at h
    · cases h
    · split at h
      · cases h
      · next hcltv =>
        split at h
        · cases h
        · cases h
        · split at h
          · cases h
          · split at h
            · cases h
            · next hstatus => exact ⟨of_not_not hstatus, by omega⟩

/-- `handle_htlc`. -/
def handleHtlc (env : Env) (target_invoice : HoldInvoice) (payment_secret : Option Bytes)
    (request : Request) : PyM Bool :=
  let k := hex target_invoice.paymentHash
  let htlc := Htlc.fromClnDict request.htlc request env.now
  match target_invoice.findHtlc htlc.key with
  | some existing => do
    modify (World.mutHoldInvoice k (·.setHtlcCallback existing.key request) fun _ => rfl)
    pure false
  | none => do
    -- the HTLC is in the set before it has been checked
    modify (World.mutHoldInvoice k (·.addHtlc htlc) fun _ => rfl)
    match checkHtlc env target_invoice payment_secret request.htlc with
    | .error e => throw e
    | .ok false => do
      failHtlc k htlc
      pure true
    | .ok true =>
      if (target_invoice.addHtlc htlc).isFullyFunded then do
        modify (World.mutHoldInvoice k (·.setFundingStatus .funded) fun _ => rfl)
        emit (.funded ((target_invoice.addHtlc htlc).setFundingStatus .funded))
        pure true
      else pure true

/-- `plugin_htlc_accepted_hook`; `forward` says that the call has a `forward_to`. -/
def pluginHtlcAcceptedHook (env : Env) (forward : Bool) (payment_secret : Option Bytes)
    (request : Request) : PyM Unit :=
  if forward then setResult request .continue_
  else do
    let w ← get
    match w.getHoldInvoice request.htlc.paymentHash with
    | none => setResult request .continue_
    | some invoice =>
      tryCatch
        (do
          let changed ← handleHtlc env invoice payment_secret request
          if changed then updateInvoice env invoice.paymentHash else pure ())
        fun _ => setResult request .continue_

/-! ## The expiry pass -/

/-- `check_invoice_expiry`. -/
def checkInvoiceExpiry (env : Env) (invoice : Option HoldInvoice) : PyM Bool :=
  match invoice with
  | none => pure false
  | some invoice =>
    if (invoice.createdAt + invoice.expiry) * 1000000000 < env.timeNs ∧
        invoice.fundingStatus ≠ .funded ∧ invoice.fundingStatus ≠ .settled then do
      cancelAllHtlcs invoice
      let w ← get
      -- `prepay_invoice := … is not None` binds the comparison: `True` has no `cancel_all_htlcs`
      let prepay_invoice := invoice.associatedInvoice.any fun h => (w.getHoldInvoice h).isSome
      (if prepay_invoice then throw .AttributeError else pure ())
      deleteHoldInvoice env (hex invoice.paymentHash) true
      pure true
    else pure false

/-- One iteration of the loop of `monitor_expiries`, which catches everything. -/
def monitorExpiries (env : Env) : PyM Unit := do
  let w ← get
  tryCatch
    (w.holdInvoices.dict.keys.forM fun payment_hash => do
      let w ← get
      let expired ← checkInvoiceExpiry env (w.holdInvoices.get? payment_hash)
      if expired then throw .RestartLoop else pure ())
    fun _ => pure ()

/-! ## The callback pass -/

/-- The end of the loop body of `callback_handler`: call the callback, then unregister it. -/
def invokeCallback (callback : Bytes → PyM Unit) (invoice : HoldInvoice) : PyM Unit := do
  let w ← get
  emit (.invokeCallback ((w.getHoldInvoice invoice.paymentHash).getD invoice))
  callback invoice.paymentHash
  unregisterHoldInvoiceCallback (hex invoice.paymentHash)

/-- The loop body of `callback_handler` for one registered payment hash. -/
def handleCallback (env : Env) (payment_hash : Hex) (callback : Bytes → PyM Unit) : PyM Unit := do
  let w ← get
  match w.holdInvoices.get? payment_hash with
  | none =>
    if w.holdInvoiceCallbacks.contains payment_hash then
      unregisterHoldInvoiceCallback payment_hash
    else throw .KeyError
  | some invoice =>
    if invoice.fundingStatus = .funded then
      match invoice.associatedInvoice with
      | none => invokeCallback callback invoice
      | some prepay_invoice_hash =>
        match w.getHoldInvoice prepay_invoice_hash with
        | none => throw .AttributeError
        | some prepay_invoice =>
          if prepay_invoice.fundingStatus = .funded then do
            let preimage ← getPreimage prepay_invoice_hash
            settleInvoice prepay_invoice preimage
            updateInvoice env prepay_invoice.paymentHash
            invokeCallback callback invoice
          else pure ()
    else pure ()

/-- One iteration of the loop of `callback_handler`. -/
def callbackHandler (env : Env) (call : HoldInvoiceCallback → Bytes → PyM Unit) : PyM Unit := do
  let w ← get
  tryCatch
    (w.holdInvoiceCallbacks.items.forM fun item => handleCallback env item.1 (call item.2))
    fun _ => pure ()

end SubswapProvider
