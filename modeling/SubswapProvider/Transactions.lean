import SubswapProvider.Library.Wire
import SubswapProvider.Bitcoin

/-!
# Transactions on the wire

`transaction.py`: how a transaction is written for the network and read from it. What is written is read
back (`deserialize_serialize`); what is read is well formed (`yields_deserialize`), is the text it was read
from as long as it is not touched, and writing it anew gives a text of the same transaction, unless its
witnesses are all empty (`reserialize`). The transaction
id is taken of the text without the witnesses, which is the text of one stripped transaction only
(`legacy_eq_iff`).

These are transactions as `Transaction` has them: every script is there. An exception is no result; the
reasons for one are a stream that ends too early, a wrong marker, amounts out of range and what is left
at the end.
-/

namespace SubswapProvider.Chain

open Wire

/-! ## Data -/

structure TxOutpoint where
  txid : Bytes
  outIdx : Nat
  deriving DecidableEq

structure TxInput where
  prevout : TxOutpoint
  scriptSig : Bytes
  nsequence : Nat
  witness : Option Bytes
  deriving DecidableEq

structure TxOutput where
  value : Nat
  scriptpubkey : Bytes
  deriving DecidableEq

structure Transaction where
  version : Int
  inputs : List TxInput
  outputs : List TxOutput
  locktime : Nat
  deriving DecidableEq

/-- `TOTAL_COIN_SUPPLY_LIMIT_IN_BTC * COIN`. -/
def MAX_MONEY : Nat := 21000000 * 100000000

/-- `is_coinbase`. -/
def TxOutpoint.isCoinbase (prevout : TxOutpoint) : Bool := prevout.txid = List.replicate 32 0

/-- `TxInput.is_segwit`. -/
def TxInput.isSegwit (txin : TxInput) : Bool := txin.witness ∉ [some [0x00], some [], none]

/-- `Transaction.is_segwit`. -/
def Transaction.isSegwit (tx : Transaction) : Bool := tx.inputs.any TxInput.isSegwit

/-! ## Writing -/

/-- `int.to_bytes(i, length=len, byteorder="little", signed=True)`. -/
def toBytesSigned (i : Int) (len : Nat) : Bytes := toBytesLE (i % 2 ^ (8 * len)).toNat len

def TxOutpoint.serializeToNetwork (prevout : TxOutpoint) : Bytes :=
  prevout.txid.reverse ++ toBytesLE prevout.outIdx 4

def TxInput.serializeToNetwork (txin : TxInput) (script_sig : Bytes) : Bytes :=
  txin.prevout.serializeToNetwork ++ (varInt script_sig.length ++ (script_sig ++
    toBytesLE txin.nsequence 4))

def TxOutput.serializeToNetwork (txout : TxOutput) : Bytes :=
  toBytesLE txout.value 8 ++ (varInt txout.scriptpubkey.length ++ txout.scriptpubkey)

/-- `serialize_witness`. An input without a witness that is no coinbase input is none of a network
transaction. -/
def serializeWitness (txin : TxInput) : Option Bytes :=
  match txin.witness with
  | some witness => some witness
  | none => if txin.prevout.isCoinbase then some [] else none

/-- `serialize_to_network`. -/
def Transaction.serializeToNetwork (tx : Transaction) (include_sigs force_legacy : Bool) :
    Option Bytes := do
  let nVersion := toBytesSigned tx.version 4
  let nLocktime := toBytesLE tx.locktime 4
  let txins := varInt tx.inputs.length ++ tx.inputs.flatMap fun txin =>
    txin.serializeToNetwork (if include_sigs then txin.scriptSig else [])
  let txouts := varInt tx.outputs.length ++ tx.outputs.flatMap TxOutput.serializeToNetwork
  if include_sigs && !force_legacy && tx.isSegwit then
    let witness ← tx.inputs.mapM serializeWitness
    pure (nVersion ++ ([0x00] ++ ([0x01] ++ (txins ++ (txouts ++ (witness.flatten ++ nLocktime))))))
  else pure (nVersion ++ (txins ++ (txouts ++ nLocktime)))

/-- `Transaction.serialize`. A transaction that has been read from a text, or written before, has this
text as its `_cached_network_ser`. -/
def Transaction.serialize (tx : Transaction) (cached_network_ser : Option Bytes) : Option Bytes :=
  match cached_network_ser.filter (· ≠ []) with
  | some ser => some ser
  | none => tx.serializeToNetwork true false

/-- `Transaction.txid`; `hash` is `sha256d`. -/
def Transaction.txid (hash : Bytes → Bytes) (tx : Transaction) : Option Bytes :=
  (tx.serializeToNetwork true true).map fun ser => (hash ser).reverse

/-! ## Reading -/

/-- `BCDataStream`. -/
abbrev Stream := Reader UInt8

def Stream.bytes (length : Nat) : Stream Bytes := readBytes length

/-- `_read_num` of an unsigned number. -/
def Stream.num (width : Nat) : Stream Nat := readNum width

/-- `_read_num` of a signed number. -/
def Stream.int (width : Nat) : Stream Int := do
  let n ← Stream.num width
  pure (if n < 2 ^ (8 * width - 1) then n else n - 2 ^ (8 * width))

def Stream.compactSize : Stream Nat := readCompactSize

/-- `vds.read_bytes(vds.read_compact_size())`. -/
def Stream.sized : Stream Bytes := do
  let length ← Stream.compactSize
  Stream.bytes length

def parseInput : Stream TxInput := do
  let prevout_hash ← Stream.bytes 32
  let prevout_n ← Stream.num 4
  let script_sig ← Stream.sized
  let nsequence ← Stream.num 4
  pure {
    prevout := { txid := prevout_hash.reverse, outIdx := prevout_n }
    scriptSig := script_sig
    nsequence
    witness := none }

def parseOutput : Stream TxOutput := do
  let value ← Stream.int 8
  check (value ≤ MAX_MONEY)
  check (0 ≤ value)
  let scriptpubkey ← Stream.sized
  pure { value := value.toNat, scriptpubkey }

def parseWitness (txin : TxInput) : Stream TxInput := do
  let n ← Stream.compactSize
  let witness_elements ← many Stream.sized n
  pure { txin with witness := some (constructWitness witness_elements) }

/-- The beginning of `Transaction.deserialize`, up to the number of inputs: whether there will be
witnesses, and this number. -/
def parseMarker : Stream (Bool × Nat) := do
  let n_vin ← Stream.compactSize
  if n_vin = 0 then
    let marker ← Stream.bytes 1
    check (marker = [0x01])
    let n_vin ← Stream.compactSize
    pure (true, n_vin)
  else pure (false, n_vin)

/-- The witnesses of all inputs, where there are any. -/
def parseWitnesses : Bool → List TxInput → Stream (List TxInput)
  | true, txins => each parseWitness txins
  | false, txins => pure txins

def parseTransaction : Stream Transaction := do
  let version ← Stream.int 4
  let (is_segwit, n_vin) ← parseMarker
  check (1 ≤ n_vin)
  let txins ← many parseInput n_vin
  let n_vout ← Stream.compactSize
  check (1 ≤ n_vout)
  let outputs ← many parseOutput n_vout
  let inputs ← parseWitnesses is_segwit txins
  let locktime ← Stream.num 4
  pure { version, inputs, outputs, locktime }

/-- `Transaction.deserialize`. -/
def deserialize (raw : Bytes) : Option Transaction :=
  match parseTransaction.run raw with
  | some (tx, []) => some tx
  | _ => none

/-! ## What can be written -/

structure TxOutpoint.Fits (prevout : TxOutpoint) : Prop where
  txid : prevout.txid.length = 32
  outIdx : prevout.outIdx < 2 ^ 32

structure TxInput.Fits (txin : TxInput) : Prop where
  prevout : txin.prevout.Fits
  scriptSig : txin.scriptSig.length < 2 ^ 64
  nsequence : txin.nsequence < 2 ^ 32

structure TxOutput.Fits (txout : TxOutput) : Prop where
  value : txout.value ≤ MAX_MONEY
  scriptpubkey : txout.scriptpubkey.length < 2 ^ 64

/-- The numbers are in the ranges of their fields, and there are inputs and outputs. -/
structure Transaction.Fits (tx : Transaction) : Prop where
  version : -2 ^ 31 ≤ tx.version ∧ tx.version < 2 ^ 31
  inputs : ∀ txin ∈ tx.inputs, txin.Fits
  outputs : ∀ txout ∈ tx.outputs, txout.Fits
  numInputs : 1 ≤ tx.inputs.length ∧ tx.inputs.length < 2 ^ 64
  numOutputs : 1 ≤ tx.outputs.length ∧ tx.outputs.length < 2 ^ 64
  locktime : tx.locktime < 2 ^ 32

/-- The input has a witness, made of items. -/
def TxInput.Witnessed (txin : TxInput) : Prop := ∃ items : List Bytes,
  items.length < 2 ^ 64 ∧ (∀ item ∈ items, item.length < 2 ^ 64) ∧
  txin.witness = some (constructWitness items)

/-- There are no witnesses, or every input has one and one of them is not empty. -/
def Transaction.Regular (tx : Transaction) : Prop :=
  (∀ txin ∈ tx.inputs, txin.witness = none) ∨
  tx.isSegwit = true ∧ ∀ txin ∈ tx.inputs, txin.Witnessed

def TxInput.stripped (txin : TxInput) : TxInput := { txin with witness := none }

/-- The transaction without its witnesses. -/
def Transaction.stripped (tx : Transaction) : Transaction :=
  { tx with inputs := tx.inputs.map TxInput.stripped }

/-! ## A transaction to try the model on -/

namespace Sample

/-- A refund. -/
def refund : Transaction where
  version := 2
  inputs := [{
    prevout := { txid := List.replicate 32 7, outIdx := 1 }
    scriptSig := []
    nsequence := 0xfffffffe
    witness := some (constructWitness [[1, 2], [], [3]]) }]
  outputs := [{ value := 50000, scriptpubkey := [0x00, 0x02, 5, 6] }]
  locktime := 900070

/-- `sha256d`, of the text of the refund without its witness. -/
def sha256d (text : Bytes) : Bytes :=
  if some text = refund.serializeToNetwork true true then [
    246, 246, 91, 243, 12, 186, 160, 189, 154, 255, 47, 175, 208, 196, 230, 49,
    95, 174, 60, 160, 255, 54, 157, 126, 32, 35, 183, 54, 66, 67, 26, 135]
  else []

theorem fits_refund : refund.Fits where
  version := by decide
  inputs := List.forall_mem_singleton.mpr ⟨⟨by decide, by decide⟩, by decide, by decide⟩
  outputs := List.forall_mem_singleton.mpr ⟨by decide, by decide⟩
  numInputs := by decide
  numOutputs := by decide
  locktime := by decide

theorem regular_refund : refund.Regular := by
  have hitems : ∀ item ∈ ([[1, 2], [], [3]] : List Bytes), item.length < 2 ^ 64 := by simp
  exact .inr ⟨by decide, List.forall_mem_singleton.mpr ⟨_, by decide, hitems, rfl⟩⟩

end Sample

/-! ## Reading parts of a text -/

section Parts

theorem reads_bytes (b : Bytes) : Reads (Stream.bytes b.length) b b := by
  intro rest
  show readBytes b.length (b ++ rest) = some (b, rest)
  simp [readBytes]

theorem reads_num {n width : Nat} (h : n < 256 ^ width) : Reads (Stream.num width) (toBytesLE n width) n :=
  fun rest => readNum_toBytesLE n width h rest

theorem reads_compactSize {n : Nat} (h : n < 2 ^ 64) : Reads Stream.compactSize (varInt n) n :=
  fun rest => readCompactSize_varInt n h rest

theorem reads_sized {b : Bytes} (h : b.length < 2 ^ 64) :
    Reads Stream.sized (varInt b.length ++ b) b :=
  (reads_compactSize h).bind (reads_bytes b)

/-- A number is read as a negative one in the upper half of its range. -/
theorem signed_emod {i : Int} {bits : Nat} (hlow : -2 ^ bits ≤ i) (hhigh : i < 2 ^ bits) :
    (if (i % 2 ^ (bits + 1)).toNat < 2 ^ bits then ((i % 2 ^ (bits + 1)).toNat : Int)
      else (i % 2 ^ (bits + 1)).toNat - 2 ^ (bits + 1)) = i := by
  have hsplit : (2 : Int) ^ (bits + 1) = 2 ^ bits + 2 ^ bits := by rw [pow_succ]; omega
  have hcast : ((2 ^ bits : Nat) : Int) = 2 ^ bits := by push_cast; rfl
  have hpos : (0 : Int) < 2 ^ bits := by positivity
  by_cases hneg : i < 0
  · have hshift : i % 2 ^ (bits + 1) = i + 2 ^ (bits + 1) := by
      rw [← Int.add_emod_right]
      exact Int.emod_eq_of_lt (by omega) (by omega)
    rw [hshift, if_neg (by omega)]
    omega
  · have hsame : i % 2 ^ (bits + 1) = i := Int.emod_eq_of_lt (by omega) (by omega)
    rw [hsame, if_pos (by omega)]
    omega

theorem reads_int {i : Int} {width : Nat} (hwidth : 0 < width) (hlow : -2 ^ (8 * width - 1) ≤ i)
    (hhigh : i < 2 ^ (8 * width - 1)) : Reads (Stream.int width) (toBytesSigned i width) i := by
  obtain ⟨bits, hbits⟩ : ∃ bits, 8 * width = bits + 1 := ⟨8 * width - 1, by omega⟩
  have hpos : (0 : Int) < 2 ^ (bits + 1) := by positivity
  have hcast : ((2 ^ (bits + 1) : Nat) : Int) = 2 ^ (bits + 1) := by push_cast; rfl
  have hlt := Int.emod_lt_of_pos i hpos
  have hnum : Reads (Stream.num width) (toBytesSigned i width) (i % 2 ^ (8 * width)).toNat := by
    apply reads_num
    rw [show (256 : Nat) = 2 ^ 8 from rfl, ← Nat.pow_mul, hbits]
    omega
  have hvalue := @signed_emod i bits (by simpa [hbits] using hlow) (by simpa [hbits] using hhigh)
  refine hnum.last ?_
  rw [hbits, Nat.add_sub_cancel, hvalue]
  exact reads_pure i

variable {txin : TxInput} {txout : TxOutput} {tx : Transaction}

theorem reads_input (h : txin.Fits) :
    Reads parseInput (txin.serializeToNetwork txin.scriptSig) txin.stripped := by
  obtain ⟨⟨htxid, hidx⟩, hscript, hsequence⟩ := h
  have hhash := reads_bytes txin.prevout.txid.reverse
  rw [List.length_reverse, htxid] at hhash
  have hprevout : Reads (Stream.num 4) (toBytesLE txin.prevout.outIdx 4) txin.prevout.outIdx :=
    reads_num (by omega)
  have hnsequence : Reads (Stream.num 4) (toBytesLE txin.nsequence 4) txin.nsequence :=
    reads_num (by omega)
  have htext : txin.serializeToNetwork txin.scriptSig = txin.prevout.txid.reverse ++
      (toBytesLE txin.prevout.outIdx 4 ++ ((varInt txin.scriptSig.length ++ txin.scriptSig) ++
        toBytesLE txin.nsequence 4)) := by
    simp [TxInput.serializeToNetwork, TxOutpoint.serializeToNetwork]
  rw [htext]
  refine hhash.bind <| hprevout.bind <| (reads_sized hscript).bind <| hnsequence.last ?_
  rw [List.reverse_reverse]
  exact reads_pure _

theorem reads_output (h : txout.Fits) : Reads parseOutput txout.serializeToNetwork txout := by
  obtain ⟨hvalue, hscript⟩ := h
  have hmax : MAX_MONEY < 2 ^ 63 := by decide
  have hsame : toBytesLE txout.value 8 = toBytesSigned txout.value 8 := by
    unfold toBytesSigned
    rw [Int.emod_eq_of_lt (by omega) (by omega)]
    rfl
  have hint : Reads (Stream.int 8) (toBytesSigned txout.value 8) txout.value :=
    reads_int (by decide) (by omega) (by omega)
  unfold TxOutput.serializeToNetwork
  rw [hsame]
  exact hint.bind <| (reads_check (by omega)).seq <| (reads_check (by omega)).seq <|
    (reads_sized hscript).last <| reads_pure _

theorem reads_witness {items : List Bytes} (hlen : items.length < 2 ^ 64)
    (hitems : ∀ item ∈ items, item.length < 2 ^ 64) :
    Reads (parseWitness txin) (constructWitness items)
      { txin with witness := some (constructWitness items) } := by
  have hmany : Reads (many Stream.sized items.length) (items.flatMap witnessPush) items :=
    reads_many fun item hitem => reads_sized (hitems item hitem)
  exact (reads_compactSize hlen).bind <| hmany.last <| reads_pure _

/-- The witnesses of the inputs, one after another. -/
theorem reads_witnesses {txins : List TxInput} (h : ∀ txin ∈ txins, txin.Witnessed) :
    Reads (each parseWitness (txins.map TxInput.stripped)) (txins.flatMap fun txin =>
      txin.witness.getD []) txins := by
  apply reads_each
  intro txin htxin
  obtain ⟨items, hlen, hitems, hwitness⟩ := h txin htxin
  have hread := @reads_witness txin.stripped items hlen hitems
  have hsame : ({ txin.stripped with witness := some (constructWitness items) } : TxInput) = txin := by
    rw [← hwitness]
    rfl
  rw [hsame] at hread
  rwa [hwitness]

theorem reads_marker_segwit {n : Nat} (h : n < 2 ^ 64) :
    Reads parseMarker ([0x00] ++ ([0x01] ++ varInt n)) (true, n) := by
  have hzero : Reads Stream.compactSize [0x00] 0 := reads_compactSize (n := 0) (by decide)
  refine hzero.bind ?_
  rw [if_pos rfl]
  exact (reads_bytes [0x01]).bind <| (reads_check rfl).seq <| (reads_compactSize h).last <| reads_pure _

theorem reads_marker_legacy {n : Nat} (hpos : 1 ≤ n) (h : n < 2 ^ 64) :
    Reads parseMarker (varInt n) (false, n) := by
  refine (reads_compactSize h).last ?_
  rw [if_neg (by omega)]
  exact reads_pure _

end Parts

/-! ## Round trips -/

section RoundTrip

variable {tx : Transaction}

theorem TxInput.Fits.stripped {txin : TxInput} (h : txin.Fits) : txin.stripped.Fits :=
  ⟨h.prevout, h.scriptSig, h.nsequence⟩

/-- The inputs as they stand in a text, without their witnesses. -/
theorem reads_inputs {txins : List TxInput} (h : ∀ txin ∈ txins, txin.Fits) :
    Reads (many parseInput txins.length) (txins.flatMap fun txin =>
      txin.serializeToNetwork txin.scriptSig) (txins.map TxInput.stripped) := by
  have hmany : Reads (many parseInput (txins.map TxInput.stripped).length)
      ((txins.map TxInput.stripped).flatMap fun txin => txin.serializeToNetwork txin.scriptSig)
      (txins.map TxInput.stripped) := by
    apply reads_many
    intro txin htxin
    obtain ⟨txin', htxin', rfl⟩ := List.mem_map.mp htxin
    exact reads_input (h txin' htxin').stripped
  rw [List.length_map, List.flatMap_map] at hmany
  exact hmany

theorem reads_outputs (h : tx.Fits) : Reads (many parseOutput tx.outputs.length)
    (tx.outputs.flatMap TxOutput.serializeToNetwork) tx.outputs :=
  reads_many fun txout htxout => reads_output (h.outputs txout htxout)

theorem reads_version (h : tx.Fits) : Reads (Stream.int 4) (toBytesSigned tx.version 4) tx.version := by
  have := h.version
  exact reads_int (by decide) (by simpa using this.1) (by simpa using this.2)

theorem reads_locktime (h : tx.Fits) : Reads (Stream.num 4) (toBytesLE tx.locktime 4) tx.locktime := by
  have := h.locktime
  exact reads_num (by omega)

/-- **The text without witnesses** is a text of the stripped transaction. -/
theorem reads_legacy (h : tx.Fits) : ∃ ser, tx.serializeToNetwork true true = some ser ∧
    Reads parseTransaction ser tx.stripped := by
  refine ⟨_, rfl, ?_⟩
  simp only [if_true, List.append_assoc]
  refine (reads_version h).bind <| (reads_marker_legacy h.numInputs.1 h.numInputs.2).bind <|
    (reads_check h.numInputs.1).seq <| (reads_inputs h.inputs).bind <|
    (reads_compactSize h.numOutputs.2).bind <| (reads_check h.numOutputs.1).seq <|
    (reads_outputs h).bind <| (reads_pure _).seq <| (reads_locktime h).last <| reads_pure _

theorem mapM_serializeWitness {txins : List TxInput} (h : ∀ txin ∈ txins, txin.Witnessed) :
    txins.mapM serializeWitness = some (txins.map fun txin => txin.witness.getD []) := by
  induction txins with
  | nil => rfl
  | cons txin txins ih =>
    obtain ⟨items, -, -, hwitness⟩ := h txin List.mem_cons_self
    have hrest := ih fun t ht => h t (List.mem_cons_of_mem txin ht)
    simp [serializeWitness, hwitness, hrest]

theorem reads_segwit (h : tx.Fits) (hsegwit : tx.isSegwit = true)
    (hwitness : ∀ txin ∈ tx.inputs, txin.Witnessed) : ∃ ser,
      tx.serializeToNetwork true false = some ser ∧ Reads parseTransaction ser tx := by
  unfold Transaction.serializeToNetwork
  simp only [hsegwit, mapM_serializeWitness hwitness, Bool.not_false, Bool.and_self, if_true]
  refine ⟨_, rfl, ?_⟩
  have hwitnesses := reads_witnesses hwitness
  rw [List.flatMap_def] at hwitnesses
  have hall : Reads parseTransaction (toBytesSigned tx.version 4 ++
      (([0x00] ++ ([0x01] ++ varInt tx.inputs.length)) ++
      ((tx.inputs.flatMap fun txin => txin.serializeToNetwork txin.scriptSig) ++
      (varInt tx.outputs.length ++ (tx.outputs.flatMap TxOutput.serializeToNetwork ++
      ((tx.inputs.map fun txin => txin.witness.getD []).flatten ++ toBytesLE tx.locktime 4)))))) tx :=
    (reads_version h).bind <| (reads_marker_segwit h.numInputs.2).bind <|
      (reads_check h.numInputs.1).seq <| (reads_inputs h.inputs).bind <|
      (reads_compactSize h.numOutputs.2).bind <| (reads_check h.numOutputs.1).seq <|
      (reads_outputs h).bind <| hwitnesses.bind <| (reads_locktime h).last <| reads_pure _
  simpa only [List.append_assoc] using hall

theorem map_stripped_of_none {txins : List TxInput} (h : ∀ txin ∈ txins, txin.witness = none) :
    txins.map TxInput.stripped = txins := by
  refine (List.map_congr_left fun txin htxin => ?_).trans (List.map_id _)
  show { txin with witness := none } = txin
  rw [← h txin htxin]

theorem stripped_of_none (h : ∀ txin ∈ tx.inputs, txin.witness = none) : tx.stripped = tx := by
  unfold Transaction.stripped
  rw [map_stripped_of_none h]

theorem isSegwit_of_none (h : ∀ txin ∈ tx.inputs, txin.witness = none) : tx.isSegwit = false := by
  unfold Transaction.isSegwit
  rw [List.any_eq_false]
  intro txin htxin
  simp [TxInput.isSegwit, h txin htxin]

/-- Without a witness to write the text is the legacy one. -/
theorem serializeToNetwork_legacy (h : tx.isSegwit = false) :
    tx.serializeToNetwork true false = tx.serializeToNetwork true true := by
  simp [Transaction.serializeToNetwork, h]

theorem deserialize_of_reads {ser : Bytes} (h : Reads parseTransaction ser tx) :
    deserialize ser = some tx := by
  have hread := h []
  rw [List.append_nil] at hread
  unfold deserialize
  rw [hread]

/-- What is written anew is read back. -/
theorem deserialize_serializeToNetwork (h : tx.Fits) (hregular : tx.Regular) :
    (tx.serializeToNetwork true false).bind deserialize = some tx := by
  rcases hregular with hnone | ⟨hsegwit, hwitness⟩
  · obtain ⟨ser, hser, hreads⟩ := reads_legacy h
    rw [stripped_of_none hnone] at hreads
    rw [serializeToNetwork_legacy (isSegwit_of_none hnone), hser]
    exact deserialize_of_reads hreads
  · obtain ⟨ser, hser, hreads⟩ := reads_segwit h hsegwit hwitness
    rw [hser]
    exact deserialize_of_reads hreads

/-- **What is written is read back**, whether it has been written or read before or not. -/
theorem deserialize_serialize {cached : Option Bytes} (h : tx.Fits) (hregular : tx.Regular)
    (hcached : ∀ ser, cached = some ser → deserialize ser = some tx) :
    (tx.serialize cached).bind deserialize = some tx := by
  unfold Transaction.serialize
  split
  · next ser hser =>
    obtain ⟨hser, -⟩ := Option.filter_eq_some_iff.mp hser
    exact hcached ser hser
  · exact deserialize_serializeToNetwork h hregular

theorem deserialize_serialize_refund :
    (Sample.refund.serialize (Sample.refund.serialize none)).bind deserialize = some Sample.refund := by
  have hread : (Sample.refund.serialize none).bind deserialize = some Sample.refund := by decide +kernel
  refine deserialize_serialize Sample.fits_refund Sample.regular_refund fun ser hser => ?_
  rw [hser] at hread
  exact hread

end RoundTrip

/-! ## What is read -/

section Accepted

theorem yields_bytes (n : Nat) : Yields (Stream.bytes n) fun b => b.length = n := by
  intro s b rest hread
  change readBytes n s = some (b, rest) at hread
  unfold readBytes at hread
  split at hread
  · cases hread
    rw [List.length_take]
    omega
  · cases hread

theorem ofBytesLE_lt (b : Bytes) : ofBytesLE b < 256 ^ b.length := by
  induction b with
  | nil => exact Nat.one_pos
  | cons c b ih =>
    have := c.toNat_lt
    rw [List.length_cons, Nat.pow_succ]
    show c.toNat + 256 * ofBytesLE b < _
    omega

theorem yields_num (width : Nat) : Yields (Stream.num width) fun n => n < 256 ^ width := by
  intro s n rest hread
  change (readBytes width s).map _ = some (n, rest) at hread
  obtain ⟨⟨b, s'⟩, hb, heq⟩ := Option.map_eq_some_iff.mp hread
  cases heq
  have := yields_bytes width s b s' hb
  subst this
  exact ofBytesLE_lt b

theorem yields_compactSize : Yields Stream.compactSize fun n => n < 2 ^ 64 := by
  have hnum : ∀ width ≤ 8, ∀ s n rest, readNum width s = some (n, rest) → n < 2 ^ 64 := by
    intro width hwidth s n rest hread
    have hlt := yields_num width s n rest hread
    have hpow : 256 ^ width ≤ 256 ^ 8 := Nat.pow_le_pow_right (by decide) hwidth
    omega
  intro s n rest hread
  change readCompactSize s = some (n, rest) at hread
  cases s with
  | nil => cases hread
  | cons size s =>
    change (if size = 253 then readNum 2 s else if size = 254 then readNum 4 s
      else if size = 255 then readNum 8 s else some (size.toNat, s)) = some (n, rest) at hread
    split at hread
    · exact hnum 2 (by decide) s n rest hread
    · split at hread
      · exact hnum 4 (by decide) s n rest hread
      · split at hread
        · exact hnum 8 (by decide) s n rest hread
        · cases hread
          have := size.toNat_lt
          omega

theorem yields_sized : Yields Stream.sized fun b => b.length < 2 ^ 64 :=
  yields_compactSize.bind fun n hn => (yields_bytes n).mono fun b hb => by omega

theorem yields_int {width : Nat} (hwidth : 0 < width) : Yields (Stream.int width) fun i =>
    -2 ^ (8 * width - 1) ≤ i ∧ i < 2 ^ (8 * width - 1) := by
  refine (yields_num width).bind fun n hn => yields_pure ?_
  obtain ⟨bits, hbits⟩ : ∃ bits, 8 * width = bits + 1 := ⟨8 * width - 1, by omega⟩
  rw [show (256 : Nat) = 2 ^ 8 from rfl, ← Nat.pow_mul] at hn
  rw [hbits] at hn ⊢
  rw [Nat.add_sub_cancel]
  have hsplit : (2 : Int) ^ (bits + 1) = 2 ^ bits + 2 ^ bits := by rw [pow_succ]; omega
  have hcast : ((2 ^ bits : Nat) : Int) = 2 ^ bits := by push_cast; rfl
  have hsplitNat : (2 : Nat) ^ (bits + 1) = 2 ^ bits + 2 ^ bits := by rw [pow_succ]; omega
  split
  · omega
  · omega

theorem yields_input : Yields parseInput fun txin => txin.Fits ∧ txin.witness = none := by
  refine (yields_bytes 32).bind fun hash hhash => (yields_num 4).bind fun n hn =>
    yields_sized.bind fun script hscript => (yields_num 4).bind fun sequence hsequence =>
    yields_pure ⟨⟨⟨?_, ?_⟩, hscript, ?_⟩, rfl⟩
  · rw [List.length_reverse, hhash]
  · show n < 2 ^ 32
    omega
  · show sequence < 2 ^ 32
    omega

theorem yields_output : Yields parseOutput TxOutput.Fits := by
  refine (yields_int (by decide)).bind fun value _ => yields_check.bind fun _ hmax =>
    yields_check.bind fun _ hpos => yields_sized.bind fun script hscript => yields_pure ⟨?_, hscript⟩
  show value.toNat ≤ MAX_MONEY
  omega

theorem yields_witness (txin : TxInput) (h : txin.witness = none) :
    Yields (parseWitness txin) fun t => t.Witnessed ∧ t.stripped = txin := by
  refine yields_compactSize.bind fun n hn => (yields_many yields_sized n).bind fun items hitems =>
    yields_pure ⟨⟨items, by omega, hitems.2, rfl⟩, ?_⟩
  show { txin with witness := none } = txin
  rw [← h]

theorem yields_marker : Yields parseMarker fun p => p.2 < 2 ^ 64 := by
  refine yields_compactSize.bind fun n hn => ?_
  split
  · exact (yields_bytes 1).bind fun _ _ => yields_check.bind fun _ _ =>
      yields_compactSize.bind fun m hm => yields_pure hm
  · exact yields_pure hn

/-- What is read has all its numbers in range, and witnesses for all inputs or none. -/
theorem yields_transaction : Yields parseTransaction fun tx => tx.Fits ∧
    ((∀ txin ∈ tx.inputs, txin.witness = none) ∨ ∀ txin ∈ tx.inputs, txin.Witnessed) := by
  refine (yields_int (by decide)).bind fun version hversion =>
    yields_marker.bind fun ⟨is_segwit, n_vin⟩ hvin =>
    yields_check.bind fun _ hin => (yields_many yields_input n_vin).bind fun txins htxins =>
    yields_compactSize.bind fun n_vout hvout => yields_check.bind fun _ hout =>
    (yields_many yields_output n_vout).bind fun outputs houtputs => ?_
  have hinputs : Yields (parseWitnesses is_segwit txins) fun inputs =>
      inputs.map TxInput.stripped = txins ∧
      ((∀ txin ∈ inputs, txin.witness = none) ∨ ∀ txin ∈ inputs, txin.Witnessed) := by
    cases is_segwit with
    | true =>
      refine (yields_each fun txin htxin => yields_witness txin (htxins.2 txin htxin).2).mono ?_
      exact fun inputs h => ⟨h.1, .inr h.2⟩
    | false =>
      refine yields_pure ⟨?_, .inl fun txin htxin => (htxins.2 txin htxin).2⟩
      exact map_stripped_of_none fun txin htxin => (htxins.2 txin htxin).2
  refine hinputs.bind fun inputs hinputs => (yields_num 4).bind fun locktime hlocktime =>
    yields_pure ⟨⟨by simpa using hversion, fun txin htxin => ?_, houtputs.2, ?_, ?_, ?_⟩, hinputs.2⟩
  · have hfits := (htxins.2 txin.stripped (hinputs.1 ▸ List.mem_map_of_mem htxin)).1
    exact ⟨hfits.prevout, hfits.scriptSig, hfits.nsequence⟩
  · have hlen : inputs.length = n_vin := by
      rw [← List.length_map TxInput.stripped, hinputs.1, htxins.1]
    rw [hlen]
    exact ⟨hin, hvin⟩
  · rw [houtputs.1]
    exact ⟨hout, hvout⟩
  · show locktime < 2 ^ 32
    omega

variable {raw : Bytes} {tx tx' : Transaction}

theorem yields_deserialize (h : deserialize raw = some tx) : tx.Fits ∧
    ((∀ txin ∈ tx.inputs, txin.witness = none) ∨ ∀ txin ∈ tx.inputs, txin.Witnessed) := by
  unfold deserialize at h
  split at h
  · next hrun =>
    cases h
    exact yields_transaction raw tx [] hrun
  · cases h

/-- **What is read can be written**: untouched as the text it was read from, and anew as a text that is
read as the same transaction, unless its witnesses are all empty and so not written. -/
theorem reserialize (h : deserialize raw = some tx) : tx.Fits ∧ tx.serialize (some raw) = some raw ∧
    (tx.serialize none).bind deserialize = some (if tx.isSegwit then tx else tx.stripped) := by
  obtain ⟨hfits, hwitness⟩ := yields_deserialize h
  have hraw : raw ≠ [] := by
    rintro rfl
    cases h
  have hcached : (some raw).filter (· ≠ []) = some raw :=
    Option.filter_eq_some_iff.mpr ⟨rfl, decide_eq_true hraw⟩
  refine ⟨hfits, ?_, ?_⟩
  · unfold Transaction.serialize
    rw [hcached]
  show (tx.serializeToNetwork true false).bind deserialize = _
  cases hsegwit : tx.isSegwit with
  | true =>
    have hall : ∀ txin ∈ tx.inputs, txin.Witnessed := by
      rcases hwitness with hnone | hall
      · rw [isSegwit_of_none hnone] at hsegwit
        cases hsegwit
      · exact hall
    obtain ⟨ser, hser, hreads⟩ := reads_segwit hfits hsegwit hall
    rw [hser]
    exact deserialize_of_reads hreads
  | false =>
    obtain ⟨ser, hser, hreads⟩ := reads_legacy hfits
    rw [serializeToNetwork_legacy hsegwit, hser]
    exact deserialize_of_reads hreads

theorem reserialize_refund : ∃ raw, deserialize raw = some Sample.refund ∧
    Sample.refund.serialize (some raw) = some raw ∧
    (Sample.refund.serialize none).bind deserialize =
      some (if Sample.refund.isSegwit then Sample.refund else Sample.refund.stripped) := by
  have hread : deserialize ((Sample.refund.serialize none).getD []) = some Sample.refund := by
    decide +kernel
  exact ⟨_, hread, (reserialize hread).2⟩

/-- **The legacy text is the text of one stripped transaction only.** -/
theorem legacy_eq_iff (h : tx.Fits) (h' : tx'.Fits) :
    tx.serializeToNetwork true true = tx'.serializeToNetwork true true ↔ tx.stripped = tx'.stripped := by
  constructor
  · intro heq
    obtain ⟨ser, hser, hreads⟩ := reads_legacy h
    obtain ⟨ser', hser', hreads'⟩ := reads_legacy h'
    rw [hser, hser'] at heq
    cases heq
    exact hreads.injective hreads'
  · intro heq
    have hsame : ∀ t : Transaction,
        t.serializeToNetwork true true = t.stripped.serializeToNetwork true true := by
      intro t
      unfold Transaction.serializeToNetwork Transaction.stripped
      rw [List.length_map, List.flatMap_map]
      rfl
    rw [hsame tx, heq, ← hsame tx']

/-- **The transaction id says everything about a transaction but its witnesses**, as far as `sha256d`
tells the texts of two transactions apart. -/
theorem txid_eq_iff {hash : Bytes → Bytes} (h : tx.Fits) (h' : tx'.Fits)
    (hhash : ∀ a b, tx.serializeToNetwork true true = some a →
      tx'.serializeToNetwork true true = some b → hash a = hash b → a = b) :
    tx.txid hash = tx'.txid hash ↔ tx.stripped = tx'.stripped := by
  rw [← legacy_eq_iff h h']
  obtain ⟨ser, hser, -⟩ := reads_legacy h
  obtain ⟨ser', hser', -⟩ := reads_legacy h'
  unfold Transaction.txid
  rw [hser, hser']
  simp only [Option.map_some, Option.some.injEq, List.reverse_inj]
  exact ⟨hhash ser ser' hser hser', congrArg hash⟩

/-- The refund signed with other bytes has the id it had. -/
theorem txid_eq_iff_refund : ∃ tx : Transaction, tx ≠ Sample.refund ∧
    (tx.txid Sample.sha256d = Sample.refund.txid Sample.sha256d ↔ tx.stripped = Sample.refund.stripped) := by
  let tx : Transaction := { Sample.refund with
    inputs := Sample.refund.inputs.map fun txin =>
      { txin with witness := some (constructWitness [[8, 9], [], [3]]) } }
  have hfits : tx.Fits := { Sample.fits_refund with
    inputs := List.forall_mem_singleton.mpr ⟨⟨by decide, by decide⟩, by decide, by decide⟩ }
  have htext : tx.serializeToNetwork true true = Sample.refund.serializeToNetwork true true := rfl
  refine ⟨tx, by decide, txid_eq_iff hfits Sample.fits_refund fun a b ha hb _ => ?_⟩
  rw [htext, hb] at ha
  exact (Option.some.inj ha).symm

end Accepted

end SubswapProvider.Chain
