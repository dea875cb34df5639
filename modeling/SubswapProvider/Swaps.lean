import SubswapProvider.Lightning

/-!
# The swap manager

`SwapManager`, but for `_claim_swap`: creating swaps, funding them, failing and finishing them, and
the three requests of clients.

In the source's words a *normal* swap is one the client receives on-chain: the plugin holds the
client's HTLCs and funds the lockup address. A *reverse* swap goes the other way.
-/

namespace SubswapProvider

open Deployment

variable [Deployment]

def LOCKTIME_DELTA_REFUND : Nat := 70

def MIN_LOCKTIME_DELTA : Nat := 60

/-- `if swap.preimage`: `None` and the empty string are false. -/
def SwapData.hasPreimage (swap : SwapData) : Bool :=
  match swap.preimage with
  | some (_ :: _) => true
  | _ => false

/-! ## Watching addresses -/

/-- `register_address`. -/
def registerAddress (env : Env) (address : Address) : PyM Unit :=
  if env.importdescriptors address then pure () else throw .BitcoinCoreRPCError

/-- `add_lnwatcher_callback`. -/
def addLnwatcherCallback (ref : SwapRef) : PyM Unit :=
  modify fun w => { w with
    lnwatcherCallbacks := w.lnwatcherCallbacks.set (w.heap ref).lockupAddress ref }

/-- `lnwatcher.remove_callback`. -/
def removeCallback (address : Address) : PyM Unit :=
  modify fun w => { w with lnwatcherCallbacks := w.lnwatcherCallbacks.pop address }

/-! ## Outgoing payments -/

/-- `invoices_to_pay.pop(key, None)`. -/
def popInvoiceToPay (k : Hex) : PyM Unit := do
  let w ← get
  match w.invoicesToPay with
  | none => throw .AttributeError
  | some toPay => modify fun w => { w with invoicesToPay := some (toPay.pop k) }

/-- `invoices_to_pay[key] = not_before`. -/
def setInvoiceToPay (k : Hex) (not_before : Nat) : PyM Unit := do
  let w ← get
  match w.invoicesToPay with
  | none => throw .AttributeError
  | some toPay => modify fun w => { w with invoicesToPay := some (toPay.set k not_before) }

/-! ## The swap table -/

/-- `_add_or_reindex_swap`: an entry that exists stays. -/
def addOrReindexSwap (ref : SwapRef) : PyM Unit := do
  let w ← get
  let k := hex (w.heap ref).paymentHash
  if w.swaps.contains k then pure () else modify (World.setSwap k ref)

/-- `swaps.pop(key)`. -/
def popSwapOrRaise (k : Hex) : PyM Unit := do
  let w ← get
  if w.swaps.contains k then modify (World.popSwap k) else throw .KeyError

/-- `_fail_swap`. -/
def failSwap (env : Env) (ref : SwapRef) : PyM Unit := do
  let w ← get
  let swap := w.heap ref
  -- the table is keyed by hex strings, `swap.payment_hash` is bytes
  (if !swap.isReverse && (PyKey.bytes swap.paymentHash).isIn w.holdInvoiceCallbacks then do
    unregisterHoldInvoiceCallback (hex swap.paymentHash)
    [some swap.paymentHash, swap.prepayHash].forM fun payment_hash => do
      let w ← get
      match payment_hash.bind fun h => (w.getHoldInvoice h) with
      | none => deletePaymentInfo env payment_hash false
      | some invoice => do
        cancelAllHtlcs invoice
        deleteHoldInvoice env (hex invoice.paymentHash) false
        deletePaymentInfo env payment_hash false
  else do
    deleteInvoice env (hex swap.paymentHash) false
    popInvoiceToPay (hex swap.paymentHash))
  removeCallback swap.lockupAddress
  (if swap.fundingTxid.isNone || swap.isRedeemed then popSwapOrRaise (hex swap.paymentHash)
    else pure ())
  dbWrite env

/-- `_finish_normal_swap`. -/
def finishNormalSwap (env : Env) (ref : SwapRef) : PyM Unit := do
  let w ← get
  let swap := w.heap ref
  pyAssert swap.hasPreimage
  match w.getHoldInvoice swap.paymentHash with
  | none => throw .AttributeError
  | some hold_invoice => do
    -- `settle` returns with `SETTLED` or raises, so the check behind it never fails
    settleInvoice hold_invoice swap.preimage
    deleteHoldInvoice env (hex swap.paymentHash) false
    (match swap.prepayHash with
      | some prepay_hash => deleteHoldInvoice env (hex prepay_hash) false
      | none => pure ())
    deletePaymentInfo env (some swap.paymentHash) false
    removeCallback swap.lockupAddress
    popSwapOrRaise (hex swap.paymentHash)
    dbWrite env

/-- `delete_finished_reverse_swap`. -/
def deleteFinishedReverseSwap (env : Env) (ref : SwapRef) : PyM Unit := do
  let w ← get
  let swap := w.heap ref
  deleteInvoice env (hex swap.paymentHash) false
  removeCallback swap.lockupAddress
  popInvoiceToPay (hex swap.paymentHash)
  (if swap.fundingTxid.isNone || swap.isRedeemed then
      modify (World.popSwap (hex swap.paymentHash))
    else pure ())
  dbWrite env

/-! ## Paying invoices -/

/-- `has_expired`; an `exp` of 0 means never. -/
def Invoice.hasExpired (i : Invoice) (env : Env) : Bool :=
  i.exp ≠ 0 ∧ (i.exp + i.time) * 1000000000 < env.timeNs

/-- `_fail_swap(self.swaps.get(key, None))`. -/
def failSwapOf (env : Env) (key : Hex) : PyM Unit := do
  let w ← get
  match w.swaps.get? key with
  | none => pure ()
  | some ref => failSwap env ref

/-- `pay_pending_ln_invoice` up to its call of `pay_invoice`. -/
def payPendingLnInvoice (env : Env) (key : Hex) : PyM Unit := do
  setInvoiceToPay key 1000000000000
  let w ← get
  match w.invoices.get? key with
  | none => failSwapOf env key
  | some invoice => do
    modify fun w => { w with payTasks := w.payTasks ++ [.paying key invoice] }
    emit (.payInvoice key (w.swap? key) (w.storedSwap? key))

/-- What a call of `pay_invoice` comes to. -/
inductive PayResult
  | raised | failed | paid

/-- The rest of `pay_pending_ln_invoice`. -/
def paidLnInvoice (env : Env) (key : Hex) (invoice : Invoice) : PayResult → PyM Unit
  | .raised => failSwapOf env key
  | .failed =>
    if invoice.hasExpired env then failSwapOf env key else setInvoiceToPay key (env.now + 60)
  | .paid => do
    deleteInvoice env key true
    popInvoiceToPay key

/-- The `n`-th task goes on to where it waits next. -/
def payTaskStep (env : Env) (n : Nat) (result : PayResult) : PyM Unit := do
  let w ← get
  match w.payTasks[n]? with
  | none => pure ()
  | some task => do
    modify fun w => { w with payTasks := w.payTasks.eraseIdx n }
    match task with
    | .spawned key => payPendingLnInvoice env key
    | .paying key invoice => paidLnInvoice env key invoice result

/-- One pass of the loop of `pay_pending_ln_invoices`. -/
def payPendingLnInvoices (env : Env) : PyM Unit := do
  let w ← get
  let due := (w.invoicesToPay.getD ∅).items.filter fun item => !(env.now < item.2)
  modify fun w => { w with payTasks := w.payTasks ++ due.map fun item => .spawned item.1 }

/-! ## Funding -/

/-- `create_transaction` of the wallet. Its error handlers call `logger.error` with an argument too
many, so a failing rpc call raises `TypeError`. -/
def createTransaction (env : Env) (outputs_without_change : Multiset (Address × Int)) :
    PyM FundingTx := do
  let change ← orRaise .TypeError env.fundpsbt
  let txid ← orRaise .TypeError env.signpsbt
  pure { txid, outputs := change + outputs_without_change }

/-- `create_funding_tx`: an output needs an integer value. -/
def createFundingTx (env : Env) (ref : SwapRef) : PyM FundingTx := do
  let w ← get
  let swap := w.heap ref
  emit (.createFundingTx swap.paymentHash swap w.holdInvoices)
  let onchain_amount ← orRaise .ValueError swap.onchainAmount
  createTransaction env {(swap.lockupAddress, onchain_amount)}

/-- `broadcast_funding_tx`, its decorator read as log-and-re-raise. -/
def broadcastFundingTx (env : Env) (ref : SwapRef) (tx : FundingTx) : PyM Unit := do
  modify (World.assign ref fun swap => { swap with fundingTxid := some tx.txid })
  let w ← get
  let swap := w.heap ref
  emit (.sendpsbt swap (w.storedSwap? (hex swap.paymentHash)) tx)
  if env.sendpsbt then pure () else throw .TxBroadcastError

/-- `hold_invoice_callback`. -/
def holdInvoiceCallback (env : Env) (payment_hash : Bytes) : PyM Unit := do
  let w ← get
  match w.swaps.get? (hex payment_hash) with
  | none => pure ()
  | some ref =>
    if (w.heap ref).fundingTxid.isNone then do
      let tx ← createFundingTx env ref
      tryCatch (broadcastFundingTx env ref tx) fun _ => failSwap env ref
    else pure ()

/-- The callback a table entry stands for. -/
def callOf (env : Env) : HoldInvoiceCallback → Bytes → PyM Unit
  | .holdInvoiceCallback => holdInvoiceCallback env

/-! ## Creating swaps -/

/-- `add_normal_swap` with `prepay=True`, as its only caller calls it. -/
def addNormalSwap (env : Env) (redeem_script : Bytes) (locktime : Nat)
    (onchain_amount_sat : Option Int) (lightning_amount_sat : Int) (payment_hash our_privkey : Bytes) :
    PyM (SwapRef × String × String) := do
  let prepay_amount_sat : Int := getClaimFee env * 2
  let invoice_amount_sat := lightning_amount_sat - prepay_amount_sat
  let invoice ←
    b11invoiceFromHash env payment_hash (invoice_amount_sat * 1000) "Submarine swap" 300
  let prepay_hash ← createPaymentInfo env
  let prepay_invoice ← b11invoiceFromHash env prepay_hash (prepay_amount_sat * 1000)
    "Submarine swap mining fees" 300
  bundlePayments env invoice.paymentHash prepay_invoice.paymentHash
  let lockup_address := scriptToP2wsh redeem_script
  let receive_address ← orRaise .RpcError env.newaddr
  let w ← get
  let ref := w.nextRef
  modify (World.allocSwap {
    isReverse := false
    locktime := locktime
    onchainAmount := onchain_amount_sat
    lightningAmount := lightning_amount_sat
    redeemScript := redeem_script
    preimage := none
    prepayHash := some prepay_hash
    privkey := our_privkey
    lockupAddress := lockup_address
    receiveAddress := receive_address
    fundingTxid := none
    spendingTxid := none
    isRedeemed := false
    paymentHash := payment_hash
    db := false })
  addOrReindexSwap ref
  registerAddress env lockup_address
  addLnwatcherCallback ref
  pure (ref, invoice.bolt11, prepay_invoice.bolt11)

/-- `create_normal_swap`. -/
def createNormalSwap (env : Env) (lightning_amount_sat : Int) (payment_hash their_pubkey : Bytes) :
    PyM (SwapRef × String × String) := do
  pyAssert (lightning_amount_sat ≠ 0)
  let height ← orRaise .RpcError env.localHeight
  let locktime := height + LOCKTIME_DELTA_REFUND
  let our_privkey := env.urandomPrivkey
  let onchain_amount_sat ← getRecvAmount lightning_amount_sat true
  let redeem_script :=
    swapScript (ripemd payment_hash) their_pubkey locktime (publicKey our_privkey)
  let created ← addNormalSwap env redeem_script locktime onchain_amount_sat lightning_amount_sat
    payment_hash our_privkey
  registerHoldInvoiceCallback (hex payment_hash) .holdInvoiceCallback
  pure created

/-- `add_reverse_swap` without a prepay hash, as its only caller calls it. -/
def addReverseSwap (env : Env) (redeem_script : Bytes) (locktime : Nat) (privkey : Bytes)
    (lightning_amount_sat : Int) (onchain_amount_sat : Option Int) (preimage payment_hash : Bytes) :
    PyM SwapRef := do
  let lockup_address := scriptToP2wsh redeem_script
  let receive_address ← orRaise .RpcError env.newaddr
  registerAddress env lockup_address
  let w ← get
  let ref := w.nextRef
  modify (World.allocSwap {
    isReverse := true
    locktime := locktime
    onchainAmount := onchain_amount_sat
    lightningAmount := lightning_amount_sat
    redeemScript := redeem_script
    preimage := some preimage
    prepayHash := none
    privkey := privkey
    lockupAddress := lockup_address
    receiveAddress := receive_address
    fundingTxid := none
    spendingTxid := none
    isRedeemed := false
    paymentHash := payment_hash
    db := false })
  addOrReindexSwap ref
  addLnwatcherCallback ref
  pure ref

/-- `create_reverse_swap`. -/
def createReverseSwap (env : Env) (lightning_amount_sat : Int) (their_pubkey : Bytes) :
    PyM SwapRef := do
  let height ← orRaise .RpcError env.localHeight
  let locktime := height + LOCKTIME_DELTA_REFUND
  let privkey := env.urandomPrivkey
  let onchain_amount_sat ← getSendAmount lightning_amount_sat false
  let preimage := env.urandomPreimage
  let payment_hash := sha256 preimage
  let redeem_script :=
    swapScript (ripemd payment_hash) (publicKey privkey) locktime their_pubkey
  addReverseSwap env redeem_script locktime privkey lightning_amount_sat onchain_amount_sat preimage
    payment_hash

/-! ## Requests -/

/-- A request of a client, its fields read from the message. -/
inductive ClientRequest
  | createswap (type pairId : String) (invoiceAmount : Int) (preimageHash claimPublicKey : Bytes)
  | createnormalswap (invoiceAmount : Int) (refundPublicKey : Bytes)
  /-- `none` stands for an invoice that does not decode. -/
  | addswapinvoice (invoice : Option Invoice)
  | unknown (method : String)

/-- `balance_sat`. -/
def balanceSat (env : Env) : Option Int :=
  env.outputs.map fun outputs =>
    let spendable := outputs.filter fun o => o.confirmed && !o.reserved
    (spendable.map fun o => (o.amountMsat / 1000 : Int)).sum * 9 / 10

/-- `server_create_swap`. -/
def serverCreateSwap (env : Env) (type pairId : String) (invoiceAmount : Int)
    (preimageHash claimPublicKey : Bytes) : PyM Unit := do
  pyAssert (pairId = "BTC/BTC")
  if type = "reversesubmarine" then do
    pyAssert (preimageHash.length = 32)
    pyAssert (claimPublicKey.length = 33)
    if numSatsCanReceive env < invoiceAmount then pure ()
    else do
      let balance ← orRaise .RpcError (balanceSat env)
      if balance < invoiceAmount then pure ()
      else do
        let _ ← createNormalSwap env invoiceAmount preimageHash claimPublicKey
        pure ()
  else pure ()

/-- `server_create_normal_swap`. -/
def serverCreateNormalSwap (env : Env) (invoiceAmount : Int) (refundPublicKey : Bytes) :
    PyM Unit := do
  pyAssert (refundPublicKey.length = 33)
  if numSatsCanSend env < invoiceAmount then pure ()
  else do
    let _ ← createReverseSwap env invoiceAmount refundPublicKey
    pure ()

/-- `server_add_swap_invoice`. -/
def serverAddSwapInvoice (env : Env) (invoice : Option Invoice) : PyM Unit := do
  let invoice ← orRaise .ValueError invoice
  let key := hex invoice.rhash
  let w ← get
  match w.swap? key with
  | none => throw .AssertionError
  | some swap => do
    let amount ← orRaise .TypeError invoice.amountSat
    pyAssert (swap.lightningAmount = amount)
    saveInvoice env invoice
    let preimage ← orRaise .TypeError swap.preimage
    pyAssert (sha256 preimage = invoice.rhash)
    pyAssert swap.spendingTxid.isNone
    setInvoiceToPay key 0

/-- `handle_request`, without the reply. -/
def handleRequest (env : Env) : ClientRequest → PyM Unit
  | .createswap type pairId invoiceAmount preimageHash claimPublicKey =>
    serverCreateSwap env type pairId invoiceAmount preimageHash claimPublicKey
  | .createnormalswap invoiceAmount refundPublicKey =>
    serverCreateNormalSwap env invoiceAmount refundPublicKey
  | .addswapinvoice invoice => serverAddSwapInvoice env invoice
  | .unknown _ => pure ()

end SubswapProvider
