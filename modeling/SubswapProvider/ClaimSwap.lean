import SubswapProvider.Swaps

/-!
# Following a swap on the chain

`SwapManager._claim_swap` and the transaction it builds. The chain monitor calls it for every
watched address: it looks for the output that funds the swap, for a transaction that spends it, and
either learns the preimage from that transaction, claims the output itself, or gives the swap up.

The branches of the source are definitions of their own, in the order in which they are reached.
-/

namespace SubswapProvider

open Deployment

variable [Deployment]

def REDEEM_AFTER_DOUBLE_SPENT_DELAY : Nat := 30

/-- `Transaction.get_fee`: the values of fetched inputs are unknown. -/
def Transaction.getFee (tx : Transaction) : Option Int :=
  if tx.witnesses.isEmpty then some (0 - tx.outputValues.sum) else none

/-! ## Finding the output -/

/-- The output `_claim_swap` goes on with: the first one, or for a reverse swap the first one of
the amount agreed on. `None` compares with no integer. -/
def selectTxo (swap : SwapData) : List PartialTxInput → Except PyErr (Option PartialTxInput)
  | [] => .ok none
  | txin :: txos =>
    if swap.isReverse then
      match swap.onchainAmount with
      | none => .error .TypeError
      | some onchain_amount =>
        if txin.valueSats < onchain_amount then selectTxo swap txos else .ok (some txin)
    else .ok (some txin)

/-! ## The claim transaction -/

/-- The witness of `sign_tx`; in a refund the place of the preimage holds `0`. -/
def SwapData.claimWitness (swap : SwapData) (sig : Bytes) : Option Bytes :=
  if swap.isReverse then
    swap.preimage.map fun preimage => constructWitness [sig, preimage, swap.redeemScript]
  else some (constructWitness [sig, [], swap.redeemScript])

/-- `_create_and_sign_claim_tx`. -/
def createAndSignClaimTx (env : Env) (txin : PartialTxInput) (swap : SwapData) :
    PyM PartialTransaction := do
  let amount_sat := txin.valueSats - getFee env CLAIM_FEE_SIZE
  (if amount_sat < dustThreshold then throw .BelowDustLimit else pure ())
  let locktime := if swap.isReverse then 0 else swap.locktime
  pyAssert (some txin.prevout.txid = swap.fundingTxid)
  let sig := signTxin txin.prevout swap.receiveAddress amount_sat locktime swap.privkey
  let witness ← orRaise .TypeError (swap.claimWitness sig)
  pure {
    prevout := txin.prevout
    address := swap.receiveAddress
    value := amount_sat
    locktime := locktime
    witness := witness }

/-- The txid of a claim transaction. -/
def PartialTransaction.id (tx : PartialTransaction) : Txid :=
  txid tx.prevout tx.address tx.value tx.locktime

/-- The attempt to build it: an output that does not pay for its claim is left alone. -/
def tryCreateClaimTx (env : Env) (txin : PartialTxInput) (swap : SwapData) :
    PyM (Option PartialTransaction) :=
  tryCatch
    (do
      let tx ← createAndSignClaimTx env txin swap
      pure (some tx))
    fun e => if e = .BelowDustLimit then pure none else throw e

/-- The end of `_claim_swap`: claim the output, or take the refund. -/
def broadcastClaim (env : Env) (ref : SwapRef) (txin : PartialTxInput) (conf : Int) : PyM Unit := do
  let w ← get
  let created ← tryCreateClaimTx env txin (w.heap ref)
  match created with
  | none => pure ()
  | some tx => do
    modify (World.assign ref fun swap => { swap with spendingTxid := some tx.id })
    if 0 < conf then do
      emit (.broadcastRawTransaction tx)
      -- a rejected transaction raises `BitcoinCoreRPCError`, which the handler does not name
      if env.sendrawtransaction then pure () else throw .BitcoinCoreRPCError
    else pure ()

/-! ## Learning the preimage -/

/-- `txin.witness_elements()[1]`. -/
def preimageOfWitness (witness : Option Bytes) : Except PyErr Bytes :=
  match witnessElements witness with
  | none => .error .SerializationError
  | some elements =>
    match elements[1]? with
    | none => .error .IndexError
    | some preimage => .ok preimage

/-- The loop over the inputs of the claiming transaction: the first second witness element that
hashes to the payment hash. -/
def extractPreimage (payment_hash : Bytes) : List (Option Bytes) → Except PyErr (Option Bytes)
  | [] => .ok none
  | witness :: witnesses =>
    match preimageOfWitness witness with
    | .error e => .error e
    | .ok preimage =>
      if sha256 preimage = payment_hash then .ok (some preimage)
      else extractPreimage payment_hash witnesses

/-- What the search for the preimage in a spending transaction comes to. -/
inductive SpendOutcome
  | finished
  | refunded
  | goOn (should_bump_fee : Bool)

/-- Raise what a pure computation ran into. -/
def liftExcept {α : Type} : Except PyErr α → PyM α
  | .ok a => pure a
  | .error e => throw e

/-- What a search comes to: with a preimage the swap is finished, a confirmed spend without one is a
refund, an unconfirmed one is a refund that may need a higher fee. -/
def handleExtracted (env : Env) (ref : SwapRef) (spent_height : Nat) (claim_tx : Transaction) :
    Option Bytes → PyM SpendOutcome
  | some preimage => do
    modify (World.assign ref fun swap => { swap with preimage := some preimage })
    finishNormalSwap env ref
    pure .finished
  | none =>
    if 2 ≤ spent_height then do
      modify (World.assign ref fun swap => { swap with isRedeemed := true })
      failSwap env ref
      pure .refunded
    else if spent_height = 0 then do
      -- The loop has left `txin` at the last input, but only a transaction without inputs gets past
      -- this line, and then `txin` is still the funding output.
      let claim_tx_fee ← orRaise .TypeError claim_tx.getFee
      let recommended_fee : Int := getClaimFee env
      -- `claim_tx_fee * 1.1 < recommended_fee`
      pure (.goOn (claim_tx_fee * 11 < recommended_fee * 10))
    else pure (.goOn false)

/-- A normal swap whose output has been spent and whose preimage is unknown. -/
def inspectSpend (env : Env) (ref : SwapRef) (txin : PartialTxInput) (spent_height : Nat) :
    PyM SpendOutcome := do
  let w ← get
  let spent_txid ← orRaise .BitcoinCoreRPCError txin.spentTxid
  let fetched ← orRaise .BitcoinCoreRPCError (env.transaction spent_txid)
  let claim_tx ← orRaise .AttributeError fetched
  let extracted ← liftExcept (extractPreimage (w.heap ref).paymentHash claim_tx.witnesses)
  handleExtracted env ref spent_height claim_tx extracted

/-! ## The two kinds of swaps -/

/-- What is left for a normal swap after the look at the spending transaction: the refund. -/
def takeRefund (env : Env) (ref : SwapRef) (txin : PartialTxInput) (remaining_time conf : Int) :
    SpendOutcome → PyM Unit
  | .finished => pure ()
  | .refunded => pure ()
  | .goOn should_bump_fee => do
    let w ← get
    if 0 < remaining_time then pure ()            -- too early for a refund
    else if (w.heap ref).hasPreimage then pure () -- we have been paid
    else if txin.spentHeight.isSome && !should_bump_fee then pure ()
    else broadcastClaim env ref txin conf

/-- The part of `_claim_swap` for normal swaps, after the output has been found. -/
def claimNormal (env : Env) (ref : SwapRef) (txin : PartialTxInput) (remaining_time conf : Int) :
    PyM Unit := do
  let w ← get
  let outcome ←
    (match (w.heap ref).preimage, txin.spentHeight with
      | none, some spent_height => inspectSpend env ref txin spent_height
      | _, _ => pure (.goOn false))
  takeRefund env ref txin remaining_time conf outcome

/-- A reverse swap whose preimage is unknown: have its invoice paid, unless time runs out. -/
def queuePayment (ref : SwapRef) (remaining_time conf : Int) : PyM Unit := do
  let w ← get
  let key := hex (w.heap ref).paymentHash
  if conf ≤ 0 then pure ()
  else match w.invoicesToPay with
    | none => throw .AttributeError
    | some toPay =>
      if remaining_time ≤ MIN_LOCKTIME_DELTA then
        modify fun w => { w with invoicesToPay := some (toPay.pop key) }
      else if toPay.contains key then pure ()
      else modify fun w => { w with invoicesToPay := some (toPay.set key 0) }

/-- The part of `_claim_swap` for reverse swaps, after the output has been found. -/
def claimReverse (env : Env) (ref : SwapRef) (txin : PartialTxInput) (remaining_time conf : Int) :
    PyM Unit := do
  let w ← get
  (match (w.heap ref).preimage with
    | some _ => pure ()
    | none => do
      let preimage ← getPreimage (w.heap ref).paymentHash
      modify (World.assign ref fun swap => { swap with preimage := preimage }))
  let w ← get
  if (w.heap ref).preimage.isNone then queuePayment ref remaining_time conf
  else if txin.spentHeight.isSome then pure ()
  else broadcastClaim env ref txin conf

/-- Whether a spend at `spent_height` is confirmed and deep enough for the swap to be over. -/
def deeplySpent (current_height : Nat) (txin : PartialTxInput) : Bool :=
  txin.spentHeight.any fun spent_height =>
    0 < spent_height ∧
      (REDEEM_AFTER_DOUBLE_SPENT_DELAY : Int) < (current_height : Int) - spent_height

/-- `_claim_swap` once the swap has noted what is known of its output. -/
def claimLocated (env : Env) (ref : SwapRef) (current_height : Nat) (txin : PartialTxInput)
    (conf : Int) : PyM Unit := do
  let w ← get
  let remaining_time : Int := (w.heap ref).locktime - current_height
  if deeplySpent current_height txin then do
    modify (World.assign ref fun swap => { swap with isRedeemed := true })
    deleteFinishedReverseSwap env ref
  else if (w.heap ref).isReverse then claimReverse env ref txin remaining_time conf
  else claimNormal env ref txin remaining_time conf

/-- `_claim_swap` once its output has been found. -/
def claimFunded (env : Env) (ref : SwapRef) (current_height : Nat) (txin : PartialTxInput) :
    PyM Unit := do
  modify (World.assign ref fun swap => { swap with fundingTxid := some txin.prevout.txid })
  addOrReindexSwap ref
  let conf ← orRaise .BitcoinCoreRPCError (env.confirmations txin.prevout.txid)
  (if txin.spentHeight.isSome then
      modify (World.assign ref fun swap => { swap with spendingTxid := txin.spentTxid })
    else pure ())
  claimLocated env ref current_height txin conf

/-- `_claim_swap` with the output it goes on with. Without one the swap is not funded; a normal one may
have had its funding double spent. -/
def claimSelected (env : Env) (ref : SwapRef) (locktime current_height : Nat) :
    Option PartialTxInput → PyM Unit
  | none => if (locktime : Int) - current_height ≤ 0 then failSwap env ref else pure ()
  | some txin => claimFunded env ref current_height txin

/-- `_claim_swap`. -/
def claimSwap (env : Env) (ref : SwapRef) : PyM Unit := do
  let upToDate ← orRaise .BitcoinCoreRPCError env.isUpToDate
  if upToDate then do
    let current_height ← orRaise .RpcError env.localHeight
    let w ← get
    let swap := w.heap ref
    let txos ← orRaise .BitcoinCoreRPCError (env.addrOutputs swap.lockupAddress)
    let selected ← liftExcept (selectTxo swap txos)
    claimSelected env ref swap.locktime current_height selected
  else pure ()

end SubswapProvider
