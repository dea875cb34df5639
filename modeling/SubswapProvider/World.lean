import SubswapProvider.Invoices
import SubswapProvider.Library.Effect

/-!
# The process, its store and its surroundings

Everything the plugin reads or writes while it runs:

* `World` — the process: the tables of `CLNLightning` and `SwapManager`, the swap objects they
  share, the datastore behind them, and the log of what has been said to the outside.
* `Env` — what lightningd, bitcoind, the clock and the random generator answer during one step. A
  call that raises is an answer like any other (`none`, or `false` where success has no value).
* `Deployment` — what never changes: the primitives of the libraries and the configuration.

A program of the plugin is a `PyM`: it keeps its changes when it raises. `StoredDict` records a
patch for every change it sees; the datastore then holds the document as of the patches written.
That document is modelled directly (`Doc`), the text of the patch log is the subject of
`JsonDb.lean`.
-/

namespace SubswapProvider

abbrev Address := String

abbrev Txid := Bytes

/-! ## Transactions -/

structure TxOutpoint where
  txid : Txid
  outIdx : Nat
  deriving DecidableEq

/-- An output paid to a watched address, as `get_addr_outputs` describes it. -/
structure PartialTxInput where
  prevout : TxOutpoint
  valueSats : Int
  spentHeight : Option Nat
  spentTxid : Option Txid
  deriving DecidableEq

/-- A transaction fetched from bitcoind: the witnesses of its inputs and the values of its outputs.
Nothing tells the values of its inputs. -/
structure Transaction where
  witnesses : List (Option Bytes)
  outputValues : List Int

/-- A claim or refund transaction: it spends one output to one address. -/
structure PartialTransaction where
  prevout : TxOutpoint
  address : Address
  value : Int
  locktime : Nat
  witness : Bytes
  deriving DecidableEq

/-- A funding transaction out of the wallet. Its outputs are sorted in the source; the order is left
out here. -/
structure FundingTx where
  txid : Txid
  outputs : Multiset (Address × Int)
  deriving DecidableEq

/-! ## The surroundings -/

/-- The settings of `PluginConfig` the swap code reads, and the secret derived at startup. -/
structure Config where
  swapserverFeeMillionths : Int
  confirmationSpeedTargetBlocks : Nat
  fallbackFeeSatPerVb : Nat
  paymentSecretKey : Bytes

/-- What is fixed for the life of a deployment. -/
class Deployment where
  config : Config
  sha256 : Bytes → Bytes
  ripemd : Bytes → Bytes
  /-- `ECPrivkey(k).get_public_key_bytes(compressed=True)`. -/
  publicKey : Bytes → Bytes
  /-- `script_to_p2wsh` on the configured network. -/
  scriptToP2wsh : Bytes → Address
  /-- `tx.txid()`, which does not depend on the witness. -/
  txid : TxOutpoint → Address → Int → Nat → Txid
  /-- `tx.sign_txin(0, privkey)`. -/
  signTxin : TxOutpoint → Address → Int → Nat → Bytes → Bytes

/-- The data `b11invoice_from_hash` encodes into an invoice. -/
structure LnAddr where
  paymenthash : Bytes
  amountMsat : Int
  minFinalCltvExpiry : Nat
  description : String
  expiry : Nat
  date : Nat
  paymentSecret : Bytes

/-- What `decodepay` answers. -/
structure DecodedInvoice where
  minFinalCltvExpiry : Nat
  paymentSecret : Option Bytes

/-- A channel of `listfunds`. -/
structure Channel where
  connected : Bool
  amountMsat : Nat
  ourAmountMsat : Nat

/-- An output of `listfunds`. -/
structure WalletOutput where
  confirmed : Bool
  reserved : Bool
  amountMsat : Nat

/-- The answers of one step's surroundings. -/
structure Env where
  /-- `time.time()`, in nanoseconds. -/
  timeNs : Nat
  localHeight : Option Nat
  /-- `feerates perkb`: block counts with their smoothed rates. -/
  feerates : Option (List (Nat × Nat))
  listinvoices : Bytes → Option Nat
  signinvoice : LnAddr → Option String
  decodepay : String → Option DecodedInvoice
  urandomPrivkey : Bytes
  urandomPreimage : Bytes
  newaddr : Option Address
  importdescriptors : Address → Bool
  channels : Option (List Channel)
  outputs : Option (List WalletOutput)
  /-- `fundpsbt` with `excess_as_change`: the outputs that are in the PSBT already. -/
  fundpsbt : Option (Multiset (Address × Int))
  signpsbt : Option Txid
  sendpsbt : Bool
  isUpToDate : Option Bool
  addrOutputs : Address → Option (List PartialTxInput)
  /-- `get_tx_height(txid).conf`. -/
  confirmations : Txid → Option Int
  transaction : Txid → Option (Option Transaction)
  sendrawtransaction : Bool
  /-- Whether the store wants the `n`-th write to replace its content. -/
  consolidates : Nat → Bool
  /-- Whether the datastore call of the `n`-th write fails. -/
  writeFails : Nat → Bool
  /-- Whether the store found at startup has patches behind its base document. -/
  hasPatches : Bool

/-- `time.time()` cut to seconds. -/
def Env.now (env : Env) : Nat := env.timeNs / 1000000000

/-! ## Swaps -/

structure SwapData where
  isReverse : Bool
  locktime : Nat
  onchainAmount : Option Int
  lightningAmount : Int
  redeemScript : Bytes
  preimage : Option Bytes
  prepayHash : Option Bytes
  privkey : Bytes
  lockupAddress : Address
  receiveAddress : Address
  fundingTxid : Option Txid
  spendingTxid : Option Txid
  isRedeemed : Bool
  /-- `_payment_hash`, which is not stored. -/
  paymentHash : Bytes
  /-- Whether `set_db` has been called: from then on assignments are recorded. -/
  db : Bool
  deriving DecidableEq

/-- The identity of a `SwapData` object. -/
abbrev SwapRef := Nat

/-! ## The store -/

/-- The document in the datastore. -/
structure Doc where
  preimages : Dict Hex Bytes
  invoices : Dict Hex Invoice
  holdInvoices : HoldInvoices
  swaps : Dict Hex SwapData

/-- The state of `JsonDB` and `CLNStorage`. -/
structure Db where
  /-- What the content of the datastore stands for: its base document with the patches behind it
  applied, `none` when one of them does not apply. -/
  disk : Option Doc
  /-- The same with the pending changes appended. -/
  queued : Option Doc
  /-- The content is the empty text. -/
  blank : Bool
  /-- The content starts with a patch, which was appended to the empty text. -/
  headless : Bool
  pending : Bool
  modified : Bool
  /-- The number of calls of `write` so far. -/
  calls : Nat

/-- What `load_data` makes of the content. One that starts with a comma does not parse. -/
def Db.load (db : Db) : Option Doc := if db.headless then none else db.disk

/-- Record a patch; one that does not apply makes the document unloadable. -/
def Db.addPatch (patch : Doc → Option Doc) (db : Db) : Db :=
  { db with queued := db.queued.bind patch, pending := true, modified := true }

/-! ## The process -/

/-- What the process says to its surroundings, and the two decisions about funding. -/
inductive Event
  /-- `request.set_result(res)`. -/
  | answer (request : Request) (res : HookResult)
  /-- `request.set_result(res)` on a request that has its result already. -/
  | refused (request : Request) (res : HookResult)
  /-- `handle_htlc` sets `FUNDED`. -/
  | funded (invoice : HoldInvoice)
  /-- `HoldInvoice.settle` sets `SETTLED`. -/
  | settled (paymentHash preimage : Bytes)
  /-- `callback_handler` invokes the callback of an invoice. -/
  | invokeCallback (invoice : HoldInvoice)
  /-- `create_funding_tx` is called; the hold invoices as they are then. -/
  | createFundingTx (paymentHash : Bytes) (swap : SwapData) (holdInvoices : HoldInvoices)
  /-- `broadcast_transaction` of the funding transaction of a swap, whose record in the datastore is
  `stored` then. -/
  | sendpsbt (swap : SwapData) (stored : Option SwapData) (tx : FundingTx)
  /-- `pay_invoice` is called for a swap, whose record in the datastore is `stored` then. -/
  | payInvoice (key : Hex) (swap stored : Option SwapData)
  | broadcastRawTransaction (tx : PartialTransaction)
  deriving DecidableEq

/-- The one callback that is ever registered, a bound method of `SwapManager`. -/
inductive HoldInvoiceCallback
  | holdInvoiceCallback
  deriving DecidableEq

/-- What `server_update_pairs` sets. -/
structure Pairs where
  percentage : ℚ
  minAmount : Int
  maxAmount : Int
  normalFee : Int
  lockupFee : Int
  claimFee : Int

/-- A point at which the process can end: the store as it is then, and what has been said. -/
structure View where
  db : Db
  said : List Event

/-- A task of `pay_pending_ln_invoice`. -/
inductive PayTask
  /-- It has been spawned. -/
  | spawned (key : Hex)
  /-- It waits for `pay_invoice`. -/
  | paying (key : Hex) (invoice : Invoice)

structure World where
  preimages : Dict Hex Bytes
  invoices : Dict Hex Invoice
  holdInvoices : HoldInvoices
  swaps : Dict Hex SwapRef
  /-- The `SwapData` objects; those from `nextRef` on are not allocated yet. -/
  heap : SwapRef → SwapData
  nextRef : SwapRef
  holdInvoiceCallbacks : Dict Hex HoldInvoiceCallback
  /-- Address to the swap its `_claim_swap` callback closes over. -/
  lnwatcherCallbacks : Dict Address SwapRef
  /-- `none` until `pay_pending_ln_invoices` has started: the attribute does not exist. -/
  invoicesToPay : Option (Dict Hex Nat)
  payTasks : List PayTask
  /-- `SwapManager.__init__` has run. -/
  managed : Bool
  /-- `none` until `server_update_pairs` has run: the attributes are `None`. -/
  pairs : Option Pairs
  db : Db
  /-- Newest first. It outlives the process. -/
  trace : List Event
  /-- The process after each write and each event, newest first. -/
  views : List View

namespace World

/-- The swap stored under `k`. -/
def swap? (w : World) (k : Hex) : Option SwapData := (w.swaps.get? k).map w.heap

/-- The record of the swap a new process would find in the datastore. -/
def storedSwap? (w : World) (k : Hex) : Option SwapData := w.db.load.bind fun d => d.swaps.get? k

/-- The live tables as a consolidating write stores them. -/
def doc (w : World) : Doc where
  preimages := w.preimages
  invoices := w.invoices
  holdInvoices := w.holdInvoices.stored
  swaps := w.swaps.mapVals w.heap

/-- `main_loop` has run: clients are served. -/
def running (w : World) : Bool := w.invoicesToPay.isSome

/-- `r` has a result. -/
def Answered (w : World) (r : Request) : Prop := ∃ res, Event.answer r res ∈ w.trace

end World

def Event.answersTo (r : Request) : Event → Bool
  | .answer r' _ => r' = r
  | _ => false

instance (w : World) (r : Request) : Decidable (w.Answered r) :=
  decidable_of_iff (w.trace.any (Event.answersTo r) = true) (by
    rw [List.any_eq_true]
    constructor
    · rintro ⟨e, he, hr⟩
      cases e with
      | answer r' res =>
        have : r' = r := by simpa [Event.answersTo] using hr
        exact ⟨res, this ▸ he⟩
      | _ => simp [Event.answersTo] at hr
    · rintro ⟨res, he⟩
      exact ⟨_, he, by simp [Event.answersTo]⟩)

/-- A program of the plugin. -/
abbrev PyM := EStateM PyErr World

/-- The value of an external call, or the exception it raises. -/
def orRaise {α : Type} (e : PyErr) : Option α → PyM α
  | some a => pure a
  | none => throw e

/-- `assert p`. -/
def pyAssert (p : Bool) : PyM Unit :=
  if p then pure () else throw .AssertionError

@[simp] theorem orRaise_some {α : Type} (e : PyErr) (a : α) : orRaise e (some a) = pure a := rfl

@[simp] theorem pyAssert_true : pyAssert true = pure () := rfl

/-- Append to the log. -/
def World.say (e : Event) (w : World) : World :=
  { w with trace := e :: w.trace, views := ⟨w.db, e :: w.trace⟩ :: w.views }

def emit (e : Event) : PyM Unit := modify (World.say e)

@[simp] theorem World.say_trace (e : Event) (w : World) : (w.say e).trace = e :: w.trace := rfl

@[simp] theorem World.say_holdInvoices (e : Event) (w : World) :
    (w.say e).holdInvoices = w.holdInvoices := rfl

@[simp] theorem World.say_db (e : Event) (w : World) : (w.say e).db = w.db := rfl

/-! ## Tables

Every change of a table records the patch of the same change. -/

namespace World

/-- `_preimages[k] = v`. -/
def setPreimage (k : Hex) (v : Bytes) (w : World) : World :=
  if w.preimages.get? k = some v then w
  else { w with
    preimages := w.preimages.set k v
    db := w.db.addPatch fun d =>
      if w.preimages.contains k && !d.preimages.contains k then none
      else some { d with preimages := d.preimages.set k v } }

/-- `_preimages.pop(k, None)`. -/
def popPreimage (k : Hex) (w : World) : World :=
  if w.preimages.contains k then
    { w with
      preimages := w.preimages.pop k
      db := w.db.addPatch fun d =>
        if d.preimages.contains k then some { d with preimages := d.preimages.pop k } else none }
  else w

/-- `_invoices[k] = v`. -/
def setInvoice (k : Hex) (v : Invoice) (w : World) : World :=
  if w.invoices.get? k = some v then w
  else { w with
    invoices := w.invoices.set k v
    db := w.db.addPatch fun d =>
      if w.invoices.contains k && !d.invoices.contains k then none
      else some { d with invoices := d.invoices.set k v } }

/-- `_invoices.pop(k, None)`. -/
def popInvoice (k : Hex) (w : World) : World :=
  if w.invoices.contains k then
    { w with
      invoices := w.invoices.pop k
      db := w.db.addPatch fun d =>
        if d.invoices.contains k then some { d with invoices := d.invoices.pop k } else none }
  else w

/-- `_hold_invoices[invoice.payment_hash.hex()] = invoice`. -/
def setHoldInvoice (invoice : HoldInvoice) (w : World) : World :=
  let k := hex invoice.paymentHash
  if (w.holdInvoices.get? k).map HoldInvoice.stored = some invoice.stored then w
  else { w with
    holdInvoices := w.holdInvoices.set invoice
    db := w.db.addPatch fun d =>
      if (w.holdInvoices.get? k).isSome && (d.holdInvoices.get? k).isNone then none
      else some { d with holdInvoices := d.holdInvoices.set invoice.stored } }

/-- `_hold_invoices.pop(k, None)`. -/
def popHoldInvoice (k : Hex) (w : World) : World :=
  if (w.holdInvoices.get? k).isSome then
    { w with
      holdInvoices := w.holdInvoices.pop k
      db := w.db.addPatch fun d =>
        if (d.holdInvoices.get? k).isSome then
          some { d with holdInvoices := d.holdInvoices.pop k }
        else none }
  else w

/-- Change a stored `HoldInvoice` object in place. No patch is recorded. -/
def mutHoldInvoice (k : Hex) (f : HoldInvoice → HoldInvoice)
    (hf : ∀ inv, (f inv).paymentHash = inv.paymentHash) (w : World) : World :=
  { w with holdInvoices := w.holdInvoices.modify k f hf }

/-- `swaps[k] = swap`, for a key that is not in the table: `set_db` is called on the object. -/
def setSwap (k : Hex) (ref : SwapRef) (w : World) : World :=
  let swap := { w.heap ref with db := true }
  { w with
    swaps := w.swaps.set k ref
    heap := Function.update w.heap ref swap
    db := w.db.addPatch fun d => some { d with swaps := d.swaps.set k swap } }

/-- `swaps.pop(k, None)`. -/
def popSwap (k : Hex) (w : World) : World :=
  if w.swaps.contains k then
    { w with
      swaps := w.swaps.pop k
      db := w.db.addPatch fun d =>
        if d.swaps.contains k then some { d with swaps := d.swaps.pop k } else none }
  else w

/-- `SwapData(...)`: a new object. -/
def allocSwap (swap : SwapData) (w : World) : World :=
  { w with heap := Function.update w.heap w.nextRef swap, nextRef := w.nextRef + 1 }

/-- `swap.attr = value` (`StoredObject.__setattr__`), `f` being the assignment. An object that was
ever stored records the change under its key, whatever is stored there now. -/
def assign (ref : SwapRef) (f : SwapData → SwapData) (w : World) : World :=
  let swap := w.heap ref
  let w' := { w with heap := Function.update w.heap ref (f swap) }
  if swap.db ∧ f swap ≠ swap then
    { w' with db := w.db.addPatch fun d =>
        let k := hex swap.paymentHash
        if d.swaps.contains k then some { d with swaps := d.swaps.modify k f } else none }
  else w'

end World

/-! ## Writing -/

/-- `storage.write(dump())` has gone through. -/
def World.consolidate (w : World) : World :=
  let db := { w.db with
    disk := some w.doc, queued := some w.doc, blank := false, headless := false, pending := false,
    modified := false }
  { w with db := db, views := ⟨db, w.trace⟩ :: w.views }

/-- `storage.append(pending_changes)` has gone through. -/
def World.append (w : World) : World :=
  let db := { w.db with
    disk := w.db.queued, blank := false, headless := w.db.headless || w.db.blank, pending := false }
  { w with db := db, views := ⟨db, w.trace⟩ :: w.views }

/-- `JsonDB.write`: replace the content of the store by the live document or append the pending
changes to it. `needs_consolidation` compares lengths; a content without a base has `init_pos` 0. -/
def dbWrite (env : Env) : PyM Unit := do
  let w ← get
  let n := w.db.calls
  modify fun w => { w with db := { w.db with calls := n + 1 } }
  if env.consolidates n || w.db.headless then
    if w.db.modified then
      if env.writeFails n then throw .StorageReadWriteError else modify World.consolidate
    else pure ()
  else
    if w.db.pending then
      if env.writeFails n then throw .StorageReadWriteError else modify World.append
    else pure ()

end SubswapProvider
