import Mathlib

/-!
# Bitcoin encodings

The byte-level helpers of `bitcoin.py` and `transaction.py` the swap code rests on: compact sizes,
witness stacks, script numbers and the redeem script of a swap. The one result here is that a
witness is read back as it was written (`witnessElements_constructWitness`): it is what lets the
claim of a swap speak about the *elements* of a witness although a transaction carries bytes.
-/

namespace SubswapProvider

abbrev Bytes := List UInt8

/-! ## Compact sizes -/

/-- `int.to_bytes(n, length=len, byteorder="little")`. -/
def toBytesLE (n : Nat) : Nat → Bytes
  | 0 => []
  | len + 1 => UInt8.ofNat (n % 256) :: toBytesLE (n / 256) len

/-- `struct.unpack` of an unsigned little-endian number. -/
def ofBytesLE : Bytes → Nat
  | [] => 0
  | b :: bs => b.toNat + 256 * ofBytesLE bs

/-- `var_int`. -/
def varInt (i : Nat) : Bytes :=
  if i < 0xfd then toBytesLE i 1
  else if i ≤ 0xffff then 0xfd :: toBytesLE i 2
  else if i ≤ 0xffffffff then 0xfe :: toBytesLE i 4
  else 0xff :: toBytesLE i 8

/-- `BCDataStream.read_bytes`: the bytes and what is left of the stream. -/
def readBytes (length : Nat) (input : Bytes) : Option (Bytes × Bytes) :=
  if length ≤ input.length then some (input.take length, input.drop length) else none

/-- `BCDataStream._read_num` at a width. -/
def readNum (width : Nat) (input : Bytes) : Option (Nat × Bytes) :=
  (readBytes width input).map fun p => (ofBytesLE p.1, p.2)

/-- `BCDataStream.read_compact_size`. -/
def readCompactSize : Bytes → Option (Nat × Bytes)
  | [] => none
  | size :: input =>
    if size = 253 then readNum 2 input
    else if size = 254 then readNum 4 input
    else if size = 255 then readNum 8 input
    else some (size.toNat, input)

theorem toBytesLE_length (n len : Nat) : (toBytesLE n len).length = len := by
  induction len generalizing n with
  | zero => rfl
  | succ len ih => simp [toBytesLE, ih]

theorem ofBytesLE_toBytesLE (n len : Nat) (h : n < 256 ^ len) :
    ofBytesLE (toBytesLE n len) = n := by
  induction len generalizing n with
  | zero =>
    have : n = 0 := by simpa using h
    subst this; rfl
  | succ len ih =>
    have hdiv : n / 256 < 256 ^ len := by
      rw [Nat.div_lt_iff_lt_mul (by decide)]
      rwa [Nat.pow_succ] at h
    have hmod : n % 256 < 2 ^ 8 := Nat.mod_lt n (by decide)
    show (UInt8.ofNat (n % 256)).toNat + 256 * ofBytesLE (toBytesLE (n / 256) len) = n
    rw [ih _ hdiv, UInt8.toNat_ofNat_of_lt' hmod]
    omega

theorem readNum_toBytesLE (n len : Nat) (h : n < 256 ^ len) (rest : Bytes) :
    readNum len (toBytesLE n len ++ rest) = some (n, rest) := by
  have hlen := toBytesLE_length n len
  unfold readNum readBytes
  rw [if_pos (by simp [hlen]), List.take_left' hlen, List.drop_left' hlen]
  simp [ofBytesLE_toBytesLE n len h]

/-- A compact size is read back with the stream behind it. -/
theorem readCompactSize_varInt (i : Nat) (h : i < 2 ^ 64) (rest : Bytes) :
    readCompactSize (varInt i ++ rest) = some (i, rest) := by
  unfold varInt
  split
  · next hi =>
    have hm : i % 256 = i := Nat.mod_eq_of_lt (by omega)
    have h8 : i < 2 ^ 8 := by omega
    have hn : (UInt8.ofNat i).toNat = i := UInt8.toNat_ofNat_of_lt' h8
    have hne : ∀ m : UInt8, 253 ≤ m.toNat → UInt8.ofNat i ≠ m := by
      intro m hmge he
      rw [← he, hn] at hmge
      omega
    show readCompactSize (UInt8.ofNat (i % 256) :: rest) = some (i, rest)
    rw [hm]
    show (if UInt8.ofNat i = 253 then readNum 2 rest
      else if UInt8.ofNat i = 254 then readNum 4 rest
      else if UInt8.ofNat i = 255 then readNum 8 rest
      else some ((UInt8.ofNat i).toNat, rest)) = some (i, rest)
    rw [if_neg (hne 253 (by decide)), if_neg (hne 254 (by decide)), if_neg (hne 255 (by decide)),
      hn]
  · split
    · next _ hi => exact readNum_toBytesLE i 2 (by omega) rest
    · split
      · next _ _ hi => exact readNum_toBytesLE i 4 (by omega) rest
      · exact readNum_toBytesLE i 8 (by omega) rest

/-! ## Witnesses -/

/-- `witness_push`. -/
def witnessPush (item : Bytes) : Bytes := varInt item.length ++ item

/-- `construct_witness`, on byte items. -/
def constructWitness (items : List Bytes) : Bytes :=
  varInt items.length ++ items.flatMap witnessPush

/-- Read `n` length-prefixed items. -/
def readItems : Nat → Bytes → Option (List Bytes)
  | 0, _ => some []
  | n + 1, input => do
    let (len, input) ← readCompactSize input
    let (item, input) ← readBytes len input
    let items ← readItems n input
    pure (item :: items)

/-- Read a witness stack: the number of its items, then the items. -/
def readWitness (w : Bytes) : Option (List Bytes) :=
  (readCompactSize w).bind fun p => readItems p.1 p.2

/-- `TxInput.witness_elements`; `none` stands for the `SerializationError` of a stream that ends
too early. -/
def witnessElements (witness : Option Bytes) : Option (List Bytes) :=
  match witness with
  | none => some []
  | some [] => some []
  | some (b :: w) => readWitness (b :: w)

theorem readItems_flatMap_witnessPush (items : List Bytes)
    (h : ∀ item ∈ items, item.length < 2 ^ 64) (rest : Bytes) :
    readItems items.length (items.flatMap witnessPush ++ rest) = some items := by
  induction items with
  | nil => rfl
  | cons item items ih =>
    have hitem : item.length < 2 ^ 64 := h item List.mem_cons_self
    have hitems := ih fun i hi => h i (List.mem_cons_of_mem item hi)
    have happ : (item :: items).flatMap witnessPush ++ rest
        = varInt item.length ++ (item ++ (items.flatMap witnessPush ++ rest)) := by
      simp [List.flatMap_cons, witnessPush, List.append_assoc]
    have hread : readBytes item.length (item ++ (items.flatMap witnessPush ++ rest))
        = some (item, items.flatMap witnessPush ++ rest) := by
      simp [readBytes]
    simp only [List.length_cons, readItems, happ, readCompactSize_varInt _ hitem,
      Option.bind_eq_bind, Option.bind_some, hread, hitems]
    rfl

/-- **A witness is read back as it was written.** -/
theorem witnessElements_constructWitness (items : List Bytes) (hlen : items.length < 2 ^ 64)
    (h : ∀ item ∈ items, item.length < 2 ^ 64) :
    witnessElements (some (constructWitness items)) = some items := by
  have hread := readCompactSize_varInt items.length hlen (items.flatMap witnessPush)
  have hitems := readItems_flatMap_witnessPush items h []
  rw [List.append_nil] at hitems
  have hcons : ∃ b bs, constructWitness items = b :: bs := by
    unfold constructWitness varInt
    split
    · exact ⟨_, _, rfl⟩
    · split
      · exact ⟨_, _, rfl⟩
      · split <;> exact ⟨_, _, rfl⟩
  obtain ⟨b, bs, hb⟩ := hcons
  calc witnessElements (some (constructWitness items))
      = readWitness (constructWitness items) := by rw [hb]; rfl
    _ = readItems items.length (items.flatMap witnessPush) := by
        unfold readWitness
        rw [constructWitness, hread]
        rfl
    _ = some items := hitems

/-! ## Scripts -/

/-- The loop of `script_num_to_bytes`: the little-endian bytes of `absvalue`, for a `fuel` of at
least their number. -/
def magnitudeBytes : Nat → Nat → Bytes
  | 0, _ => []
  | fuel + 1, absvalue =>
    if absvalue = 0 then [] else UInt8.ofNat (absvalue % 256) :: magnitudeBytes fuel (absvalue / 256)

/-- `script_num_to_bytes`, on the non-negative numbers the swap scripts hold. -/
def scriptNumToBytes (i : Nat) : Bytes :=
  let result := magnitudeBytes i i
  match result.getLast? with
  | some b => if b &&& 0x80 ≠ 0 then result ++ [0x00] else result
  | none => result

/-- `_op_push`. -/
def opPush (i : Nat) : Bytes :=
  if i < 0x4c then toBytesLE i 1
  else if i ≤ 0xff then 0x4c :: toBytesLE i 1
  else if i ≤ 0xffff then 0x4d :: toBytesLE i 2
  else 0x4e :: toBytesLE i 4

/-- `push_script`. -/
def pushScript (data : Bytes) : Bytes :=
  match data with
  | [] => [0x00]
  | [b] =>
    if b = 0 then [0x00]
    else if b ≤ 16 then [0x50 + b]
    else if b = 0x81 then [0x4f]
    else opPush 1 ++ data
  | _ => opPush data.length ++ data

/-- An item of a script template, with its value filled in. -/
inductive ScriptItem
  | opcode (op : UInt8)
  | number (i : Nat)
  | data (b : Bytes)

/-- `construct_script`, its values already in their places. -/
def constructScript (items : List ScriptItem) : Bytes :=
  items.flatMap fun
    | .opcode op => [op]
    | .number i => pushScript (scriptNumToBytes i)
    | .data b => pushScript b

/-- `construct_script(WITNESS_TEMPLATE_REVERSE_SWAP, {1: 32, 5: hash, 7: claimKey, 10: locktime,
13: refundKey})`. -/
def swapScript (hash claimKey : Bytes) (locktime : Nat) (refundKey : Bytes) : Bytes :=
  constructScript [
    .opcode 0x82,        -- OP_SIZE
    .number 32,
    .opcode 0x87,        -- OP_EQUAL
    .opcode 0x63,        -- OP_IF
    .opcode 0xa9,        -- OP_HASH160
    .data hash,
    .opcode 0x88,        -- OP_EQUALVERIFY
    .data claimKey,
    .opcode 0x67,        -- OP_ELSE
    .opcode 0x75,        -- OP_DROP
    .number locktime,
    .opcode 0xb1,        -- OP_CHECKLOCKTIMEVERIFY
    .opcode 0x75,        -- OP_DROP
    .data refundKey,
    .opcode 0x68,        -- OP_ENDIF
    .opcode 0xac]        -- OP_CHECKSIG

/-- `dust_threshold`, at the default relay fee of 1000 sat/kB the plugin never changes. -/
def dustThreshold : Int :=
  let dustLim := 182 * 3 * 1000
  dustLim / 1000 + if dustLim % 1000 > 0 then 1 else 0

end SubswapProvider
