import SubswapProvider.Swaps

/-!
# What clients are answered

The requests of `Swaps.lean` once more, with the dictionaries they return. A handler that raises
answers nothing; one that turns a client down returns a dictionary with an `error`.
-/

namespace SubswapProvider

open Deployment

/-- The dictionary a handler returns. -/
inductive Response
  | error (message : String)
  | createswap (id : Hex) (invoice minerFeeInvoice : String) (lockupAddress : Address)
      (redeemScript : Bytes) (timeoutBlockHeight : Nat) (onchainAmount : Option Int)
  | createnormalswap (id preimageHash : Hex) (acceptZeroConf : Bool) (expectedAmount : Option Int)
      (timeoutBlockHeight : Nat) (address : Address) (redeemScript : Bytes)
  | addswapinvoice
  deriving DecidableEq

/-- The dictionary has an `error`. -/
def Response.isError : Response → Bool
  | .error _ => true
  | _ => false

variable [Deployment] (env : Env)

/-- `server_create_swap`. -/
def serverCreateSwapResponse (type pairId : String) (invoiceAmount : Int)
    (preimageHash claimPublicKey : Bytes) : PyM Response := do
  pyAssert (pairId = "BTC/BTC")
  if type = "reversesubmarine" then do
    pyAssert (preimageHash.length = 32)
    pyAssert (claimPublicKey.length = 33)
    if numSatsCanReceive env < invoiceAmount then
      pure (.error "not enough incoming capacity, please open channel")
    else do
      let balance ← orRaise .RpcError (balanceSat env)
      if balance < invoiceAmount then pure (.error "not enough onchain balance")
      else do
        let (ref, invoice, prepay_invoice) ←
          createNormalSwap env invoiceAmount preimageHash claimPublicKey
        let w ← get
        let swap := w.heap ref
        pure (.createswap (hex preimageHash) invoice prepay_invoice swap.lockupAddress
          swap.redeemScript swap.locktime swap.onchainAmount)
  else if type = "submarine" then
    pure (.error "Deprecated API. Please upgrade your version of Electrum")
  else pure (.error ("unsupported request type: " ++ type))

/-- `server_create_normal_swap`. -/
def serverCreateNormalSwapResponse (invoiceAmount : Int) (refundPublicKey : Bytes) :
    PyM Response := do
  pyAssert (refundPublicKey.length = 33)
  if numSatsCanSend env < invoiceAmount then pure (.error "not enough outgoing capacity")
  else do
    let ref ← createReverseSwap env invoiceAmount refundPublicKey
    let w ← get
    let swap := w.heap ref
    pure (.createnormalswap (hex swap.paymentHash) (hex swap.paymentHash) false swap.onchainAmount
      swap.locktime swap.lockupAddress swap.redeemScript)

/-- `handle_request` up to the reply. -/
def handleRequestResponse : ClientRequest → PyM Response
  | .createswap type pairId invoiceAmount preimageHash claimPublicKey =>
    serverCreateSwapResponse env type pairId invoiceAmount preimageHash claimPublicKey
  | .createnormalswap invoiceAmount refundPublicKey =>
    serverCreateNormalSwapResponse env invoiceAmount refundPublicKey
  | .addswapinvoice invoice => do
    serverAddSwapInvoice env invoice
    pure .addswapinvoice
  | .unknown method => pure (.error ("unknown swap method: " ++ method))

/-! ## The same requests -/

theorem serverCreateSwapResponse_discard (type pairId : String) (invoiceAmount : Int)
    (preimageHash claimPublicKey : Bytes) :
    (serverCreateSwapResponse env type pairId invoiceAmount preimageHash claimPublicKey
      >>= fun _ => pure ()) =
    serverCreateSwap env type pairId invoiceAmount preimageHash claimPublicKey := by
  unfold serverCreateSwapResponse serverCreateSwap
  rw [bind_assoc]
  congr 1
  funext _
  split
  · simp only [bind_assoc]
    congr 1
    funext _
    congr 1
    funext _
    split
    · rfl
    · rw [bind_assoc]
      congr 1
      funext balance
      split
      · rfl
      · rw [bind_assoc]
        rfl
  · split
    · rfl
    · rfl

theorem serverCreateNormalSwapResponse_discard (invoiceAmount : Int) (refundPublicKey : Bytes) :
    (serverCreateNormalSwapResponse env invoiceAmount refundPublicKey >>= fun _ => pure ()) =
      serverCreateNormalSwap env invoiceAmount refundPublicKey := by
  unfold serverCreateNormalSwapResponse serverCreateNormalSwap
  rw [bind_assoc]
  congr 1
  funext _
  split
  · rfl
  · rw [bind_assoc]
    rfl

/-- A request changes the process the same with its response left out. -/
theorem handleRequestResponse_discard (request : ClientRequest) :
    (handleRequestResponse env request >>= fun _ => pure ()) = handleRequest env request := by
  cases request with
  | createswap type pairId invoiceAmount preimageHash claimPublicKey =>
    exact serverCreateSwapResponse_discard env type pairId invoiceAmount preimageHash claimPublicKey
  | createnormalswap invoiceAmount refundPublicKey =>
    exact serverCreateNormalSwapResponse_discard env invoiceAmount refundPublicKey
  | addswapinvoice invoice =>
    show (serverAddSwapInvoice env invoice >>= fun _ => pure Response.addswapinvoice) >>= _ = _
    rw [bind_assoc]
    exact bind_pure (serverAddSwapInvoice env invoice)
  | unknown method => rfl

end SubswapProvider
