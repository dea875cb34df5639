import SubswapProvider.World

/-!
# The outputs of an address

`BitcoinCoreRPC.get_addr_outputs` asks the wallet of bitcoind for what was paid to an address. Outputs
that are unspent are listed by `listunspent`. Those that have been spent again have to be looked for:
`_fetch_spent_utxos` reads the wallet's list of transactions entry by entry, the newest first, until the
amount that is missing has been found.

The wallet here is what the calls are documented to describe: the transactions that touch a watched
address. A transaction that another one has displaced, by a higher fee for instance, is neither in the chain
nor in the mempool any more, but stays in the list. The wallet does not change during the search, and
coinbase transactions are left out.
-/

namespace SubswapProvider

def COIN : Nat := 100000000

/-! ## The wallet -/

structure TxOutput where
  address : Address
  value : Nat
  deriving DecidableEq

/-- A transaction is in the chain or the mempool, or it has been displaced by one that spends the same
outputs: `conflicted` if that one is in a block, and `indexed` if it was in a block once itself. -/
inductive Standing
  | live
  | displaced (conflicted indexed : Bool)
  deriving DecidableEq

/-- A transaction; without a `blockheight` it is unconfirmed. -/
structure WalletTx where
  txid : Txid
  inputs : List TxOutpoint
  outputs : List TxOutput
  blockheight : Option Nat
  standing : Standing := .live
  deriving DecidableEq

def WalletTx.live (t : WalletTx) : Bool := t.standing = .live

/-- `getrawtransaction` finds what is in the mempool or was ever in a block. -/
def WalletTx.indexed (t : WalletTx) : Bool :=
  match t.standing with
  | .live => true
  | .displaced _ indexed => indexed

/-- What a transaction receives is no longer listed when a block contradicts it. -/
def WalletTx.conflicted (t : WalletTx) : Bool :=
  match t.standing with
  | .live => false
  | .displaced conflicted _ => conflicted

/-- The transactions of a wallet, the newest first. The chain and the mempool do not spend an output
twice; every transaction has an output, and the outputs that are spent exist. -/
structure Wallet where
  watched : List Address
  txs : List WalletTx
  txids_nodup : (txs.map WalletTx.txid).Nodup
  live_spent_once : ((txs.filter WalletTx.live).flatMap WalletTx.inputs).Nodup
  outputs_ne_nil : ∀ t ∈ txs, t.outputs ≠ []
  spends_outputs : ∀ t ∈ txs, ∀ o ∈ t.inputs, ∀ p ∈ txs, p.txid = o.txid →
    o.outIdx < p.outputs.length

/-- An output under its outpoint. -/
structure Coin where
  prevout : TxOutpoint
  output : TxOutput
  deriving DecidableEq

/-- The outputs of a transaction. -/
def WalletTx.coins (t : WalletTx) : List Coin :=
  t.outputs.zipIdx.map fun p => ⟨⟨t.txid, p.2⟩, p.1⟩

inductive Category
  | send | receive
  deriving DecidableEq

/-- An entry of `listtransactions`. -/
structure WalletEntry where
  category : Category
  txid : Txid
  blockheight : Option Nat
  deriving DecidableEq

/-- An answer of `listreceivedbyaddress`, the amount in bitcoin. -/
structure Received where
  txids : List Txid
  amount : ℚ

/-- An answer of `listunspent`, or what `_fetch_spent_utxos` writes in its place. -/
structure Utxo where
  txid : Txid
  vout : Nat
  amount : ℚ
  spentHeight : Option Nat
  spentTxid : Option Txid

namespace Wallet

variable (w : Wallet)

/-- A transaction the wallet knows. -/
def walletTx? (txid : Txid) : Option WalletTx := w.txs.find? fun t => t.txid = txid

/-- `getrawtransaction`, which does not ask the wallet. -/
def getTransaction (txid : Txid) : Option WalletTx := (w.walletTx? txid).filter WalletTx.indexed

def output? (prevout : TxOutpoint) : Option TxOutput :=
  (w.walletTx? prevout.txid).bind fun t => t.outputs[prevout.outIdx]?

/-- The transaction that spends an output. -/
def spender? (prevout : TxOutpoint) : Option WalletTx :=
  w.txs.find? fun t => t.live && prevout ∈ t.inputs

/-- The outputs ever paid to an address. -/
def paidTo (address : Address) : List Coin :=
  ((w.txs.filter WalletTx.live).flatMap WalletTx.coins).filter fun c => c.output.address = address

/-- Whether a transaction spends from an address, or did so before it was displaced. -/
def spendsFrom (address : Address) (t : WalletTx) : Bool :=
  t.inputs.any fun prevout => (w.output? prevout).any fun output => output.address = address

def listreceivedbyaddress (address : Address) : List Received :=
  if address ∈ w.watched then
    [{ txids := (w.paidTo address).map fun c => c.prevout.txid
       amount := ((w.paidTo address).map fun c => c.output.value).sum / COIN }]
  else []

def listunspent (address : Address) : List Utxo :=
  ((w.paidTo address).filter fun c => (w.spender? c.prevout).isNone).map fun c => {
    txid := c.prevout.txid
    vout := c.prevout.outIdx
    amount := c.output.value / COIN
    spentHeight := none
    spentTxid := none }

/-- The entries of one transaction: one for each output if it spends a watched coin, and one for each
output to a watched address. A displaced transaction has them, too. -/
def entriesOf (t : WalletTx) : List WalletEntry :=
  (if w.watched.any fun address => w.spendsFrom address t then
      t.outputs.map fun _ => ⟨.send, t.txid, t.blockheight⟩
    else []) ++
  (t.outputs.filter fun output => !t.conflicted && output.address ∈ w.watched).map fun _ =>
    ⟨.receive, t.txid, t.blockheight⟩

def listtransactions : List WalletEntry := w.txs.flatMap w.entriesOf

end Wallet

/-! ## The search -/

/-- What these two functions raise. -/
inductive AddrOutputsError
  | UnknownAddressError
  | UtxosNotFoundError
  | AttributeError
  | IndexError
  deriving DecidableEq

/-- `_utxo_to_partial_txin`: the amount is taken to be in bitcoin. -/
def Utxo.toPartialTxin (utxo : Utxo) : PartialTxInput where
  prevout := ⟨utxo.txid, utxo.vout⟩
  valueSats := ⌊utxo.amount * COIN⌋
  spentHeight := utxo.spentHeight
  spentTxid := utxo.spentTxid

namespace Wallet

variable (w : Wallet) (received_txids : List Txid) (locking_addr : Address)

/-- The loop over the inputs of a spending transaction, with the outputs found so far and the amount
still missing. The value of an output is in satoshis. -/
def collectSpent (wallet_send_tx : WalletEntry) :
    List TxOutpoint → List PartialTxInput → Int →
      Except AddrOutputsError (List PartialTxInput × Int)
  | [], spent_utxos, spent_amount_sat => .ok (spent_utxos, spent_amount_sat)
  | prevout :: inputs, spent_utxos, spent_amount_sat =>
    if prevout.txid ∈ received_txids then
      match w.getTransaction prevout.txid with
      | none => .error .AttributeError
      | some full_received_tx =>
        match full_received_tx.outputs[prevout.outIdx]? with
        | none => .error .IndexError
        | some spent_output =>
          if spent_output.address = locking_addr then
            let utxo : Utxo := {
              txid := prevout.txid
              vout := prevout.outIdx
              amount := spent_output.value
              spentHeight := some (wallet_send_tx.blockheight.getD 0)
              spentTxid := some wallet_send_tx.txid }
            collectSpent wallet_send_tx inputs (spent_utxos ++ [utxo.toPartialTxin])
              (spent_amount_sat - spent_output.value)
          else collectSpent wallet_send_tx inputs spent_utxos spent_amount_sat
    else collectSpent wallet_send_tx inputs spent_utxos spent_amount_sat

/-- The loop of `_fetch_spent_utxos`, which asks for the entries one by one. The list is what the wallet
has from the entry `skip_txs` on. -/
def fetchSpentUtxos :
    List WalletEntry → Nat → Int → List PartialTxInput →
      Except AddrOutputsError (List PartialTxInput)
  | [], _, _, spent_utxos => .ok spent_utxos
  | wallet_tx :: wallet_txs, skip_txs, spent_amount_sat, spent_utxos =>
    if 0 < spent_amount_sat then
      let skip_txs := skip_txs + 1
      if 200 < skip_txs then .ok spent_utxos
      else if wallet_tx.category = .send then
        match w.getTransaction wallet_tx.txid with
        | none => .error .AttributeError
        | some full_spending_tx =>
          match w.collectSpent received_txids locking_addr wallet_tx full_spending_tx.inputs
              spent_utxos spent_amount_sat with
          | .error e => .error e
          | .ok (spent_utxos, spent_amount_sat) =>
            fetchSpentUtxos wallet_txs skip_txs spent_amount_sat spent_utxos
      else fetchSpentUtxos wallet_txs skip_txs spent_amount_sat spent_utxos
    else .ok spent_utxos

/-- `get_addr_outputs`. -/
def getAddrOutputs (address : Address) : Except AddrOutputsError (List PartialTxInput) :=
  match w.listreceivedbyaddress address with
  | [] => .error .UnknownAddressError
  | received :: _ =>
    if received.txids = [] then .ok []
    else
      let funding_inputs := (w.listunspent address).map Utxo.toPartialTxin
      let unspent_amount_sat := (funding_inputs.map fun utxo => utxo.valueSats).sum
      let spent_amount := ⌊received.amount * COIN⌋ - unspent_amount_sat
      if 0 < spent_amount then
        match w.fetchSpentUtxos received.txids address w.listtransactions 0 spent_amount [] with
        | .error e => .error e
        | .ok spent_utxos =>
          if 0 < spent_amount - (spent_utxos.map fun utxo => utxo.valueSats).sum then
            .error .UtxosNotFoundError
          else .ok (funding_inputs ++ spent_utxos)
      else .ok funding_inputs

end Wallet

end SubswapProvider
