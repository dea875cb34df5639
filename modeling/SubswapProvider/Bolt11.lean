import SubswapProvider.Bech32
import SubswapProvider.Bitcoin
import SubswapProvider.World

/-!
# BOLT11 invoices

`lnaddr.py`: how `lnencode_unsigned` writes an invoice that lightningd is to sign, and how `lndecode`
reads an invoice. An amount is an exact rational number of bitcoins.

The curve, and addresses that are not segwit ones, are a parameter (`Codecs`).
-/

namespace SubswapProvider.Bolt11

open Bech32

/-- The exceptions of `lnaddr.py`, and those it lets through. -/
inductive LnErr
  | LnInvoiceException
  | LnDecodeException
  | LnEncodeException
  | OverflowError
  | raised (e : PyErr)
  deriving DecidableEq

instance : MonadLift (Except PyErr) (Except LnErr) := ⟨Except.mapError .raised⟩

/-- The networks of `constants.py`. -/
inductive Net
  | mainnet | testnet | testnet4 | regtest | simnet | signet
  deriving DecidableEq

namespace Net

def SEGWIT_HRP : Net → Text
  | .mainnet => ['b', 'c']
  | .testnet | .testnet4 | .signet => ['t', 'b']
  | .regtest => ['b', 'c', 'r', 't']
  | .simnet => ['s', 'b']

def BOLT11_HRP : Net → Text
  | .signet => ['t', 'b', 's']
  | net => net.SEGWIT_HRP

def ADDRTYPE_P2PKH : Net → Nat
  | .mainnet => 0
  | .simnet => 0x3f
  | _ => 111

def ADDRTYPE_P2SH : Net → Nat
  | .mainnet => 5
  | .simnet => 0x7b
  | _ => 196

end Net

/-- A step of a route hint (`r`). -/
structure Hop where
  pubkey : Bytes
  scid : Bytes
  feebase : Nat
  feerate : Nat
  cltv : Nat
  deriving DecidableEq

/-- A trampoline hint (`t`). -/
structure Trampoline where
  pubkey : Bytes
  feebase : Nat
  feerate : Nat
  cltv : Nat
  deriving DecidableEq

/-- An entry of `LnAddr.tags`. The values of `h` and `t` are not the same on both sides: the writer
takes a text to hash and one hint, the reader gives a hash and a list of hints. -/
inductive Tag
  | r (v : List Hop)
  | t (v : Trampoline ⊕ List Trampoline)
  | f (v : Option Text)
  | d (v : String)
  | x (v : Nat)
  | h (v : String ⊕ Bytes)
  | n (v : Bytes)
  | c (v : Nat)
  | nine (v : Nat)
  | other (k : Char)
  deriving DecidableEq

namespace Tag

def key : Tag → Char
  | .r _ => 'r'
  | .t _ => 't'
  | .f _ => 'f'
  | .d _ => 'd'
  | .x _ => 'x'
  | .h _ => 'h'
  | .n _ => 'n'
  | .c _ => 'c'
  | .nine _ => '9'
  | .other k => k

end Tag

structure LnAddr where
  paymenthash : Option Bytes
  payment_secret : Option Bytes
  amount : Option ℚ
  net : Net
  tags : List Tag
  date : Nat
  unknown_tags : List (Char × List Nat) := []
  signature : Option Bytes := none
  pubkey : Option Bytes := none
  deriving DecidableEq

/-- The curve and base58. -/
class Codecs where
  /-- `b58_address_to_hash160`. -/
  b58AddressToHash160 : Text → Option (Nat × Bytes)
  /-- `hash160_to_b58_address`. -/
  hash160ToB58Address : Bytes → Nat → Text
  /-- `ECPubkey(pubkey).ecdsa_verify(sig64, msg32)`. It raises for bytes that are not a key. -/
  ecdsaVerify : Bytes → Bytes → Bytes → Except LnErr Bool
  /-- `ECPubkey.from_ecdsa_sig64(sig64, recid, msg32)`, as `get_public_key_bytes(True)`. -/
  fromEcdsaSig64 : Bytes → Nat → Bytes → Except LnErr Bytes

/-! ## Amounts -/

/-- `int(q)`. -/
def truncate (q : ℚ) : Int := q.num.tdiv q.den

/-- `str(n)`. -/
def str : Int → Text
  | .ofNat n => Nat.toDigits 10 n
  | .negSucc n => '-' :: Nat.toDigits 10 (n + 1)

/-- The loop of `shorten_amount`. No unit is its `else`. -/
def shortenLoop : List Char → Int → Int × Option Char
  | [], amount => (amount, none)
  | unit :: units, amount =>
    if amount % 1000 = 0 then shortenLoop units (amount / 1000) else (amount, some unit)

/-- `shorten_amount`. -/
def shortenAmount (amount : ℚ) : Text :=
  let short := shortenLoop ['p', 'n', 'u', 'm'] (truncate (amount * 10 ^ 12))
  str short.1 ++ short.2.toList

/-- The `units` of `unshorten_amount`. -/
def unitOf : Char → Option Nat
  | 'p' => some (10 ^ 12)
  | 'n' => some (10 ^ 9)
  | 'u' => some (10 ^ 6)
  | 'm' => some (10 ^ 3)
  | _ => none

/-- `re.fullmatch("\\d+[pnum]?", amount)`. -/
def isAmount (amount : Text) : Bool :=
  let rest := amount.dropWhile Char.isDigit
  amount.takeWhile Char.isDigit ≠ [] && (rest = [] || rest.length = 1 && rest.all (unitOf · |>.isSome))

/-- `unshorten_amount`. -/
def unshortenAmount (amount : Text) : Except LnErr ℚ :=
  match amount.getLast? with
  | none => .error (.raised .IndexError)
  | some unit =>
    if !isAmount amount then .error .LnDecodeException
    else
      match unitOf unit with
      | some k => .ok (Nat.ofDigitChars 10 amount.dropLast 0 / k)
      | none => .ok (Nat.ofDigitChars 10 amount 0)

/-- The setter of `amount`. -/
def checkAmount (value : ℚ) : Except LnErr ℚ :=
  if ¬ (0 ≤ value ∧ value ≤ 21000000) then .error .LnInvoiceException
  -- `value * 10**12 % 10`
  else if (value * 10 ^ 12 / 10).den ≠ 1 then .error .LnInvoiceException
  else .ok value

/-- `get_amount_msat`. -/
def LnAddr.getAmountMsat (addr : LnAddr) : Option Int :=
  addr.amount.map fun amount => truncate (amount * 100000000 * 1000)

/-! ## Words -/

/-- The loop of `int_to_data5`: the digits, the lowest first. The source is given no negative numbers,
on which its loop would not end. -/
def digits5 (val : Nat) : List Nat :=
  if _h : val = 0 then [] else val % 32 :: digits5 (val / 32)
termination_by val
decreasing_by exact Nat.div_lt_self (Nat.pos_of_ne_zero _h) (by decide)

/-- `int_to_data5`. The list is padded with as many zeros as it has digits above `bit_len // 5`. -/
def intToData5 (val : Nat) (bit_len : Option Nat) : Except LnErr (List Nat) :=
  match bit_len with
  | none => .ok (digits5 val).reverse
  | some bit_len =>
    if bit_len % 5 ≠ 0 then .error (.raised .AssertionError)
    else if bit_len < val.size then .error (.raised .ValueError)
    else
      let ret := digits5 val
      .ok (ret ++ List.replicate (ret.length - bit_len / 5) 0).reverse

/-- `int_from_data5`. -/
def intFromData5 (data5 : List Nat) : Nat := data5.foldl (fun total v => 32 * total + v) 0

/-- `tagged5`. -/
def tagged5 (char : Char) (data5 : List Nat) : Except LnErr (List Nat) :=
  if data5.length < 1024 then
    match charsetInverse char with
    | some k => .ok ([k, data5.length >>> 5, data5.length &&& 31] ++ data5)
    | none => .error (.raised .KeyError)
  else .error (.raised .AssertionError)

/-- `convertbits(data8, 8, 5)`. Bytes always have words. -/
def toData5 (data8 : Bytes) : List Nat := (convertbits (data8.map UInt8.toNat) 8 5 true).getD []

/-- `tagged8`. -/
def tagged8 (char : Char) (data8 : Bytes) : Except LnErr (List Nat) := tagged5 char (toData5 data8)

/-- `bytes(convertbits(data5, 5, 8, False))`. -/
def toData8 (data5 : List Nat) : Except LnErr Bytes :=
  match convertbits data5 5 8 false with
  | some data8 => .ok (data8.map UInt8.ofNat)
  | none => .error (.raised .TypeError)

/-- `int.to_bytes(n, length=len, byteorder="big", signed=False)`. -/
def toBytesBE (n len : Nat) : Except LnErr Bytes :=
  if n < 256 ^ len then .ok (toBytesLE n len).reverse else .error .OverflowError

/-- `int.from_bytes(b, byteorder="big")`. -/
def fromBytesBE (b : Bytes) : Nat := ofBytesLE b.reverse

/-- `v.encode()`. -/
def encodeUtf8 (v : String) : Bytes := v.toUTF8.data.toList

/-- `b.decode('utf-8')`. -/
def decodeUtf8 (b : Bytes) : Except LnErr String :=
  match String.fromUTF8? ⟨b.toArray⟩ with
  | some s => .ok s
  | none => .error (.raised .ValueError)

/-! ## Writing -/

section Writing

variable [Deployment] [Codecs]

open Deployment Codecs

/-- The version and the program `encode_fallback_addr` writes. -/
def fallbackProgram (fallback : Text) (net : Net) : Except LnErr (Nat × Bytes) :=
  match decodeSegwitAddress net.SEGWIT_HRP fallback with
  | some (wver, wprog_ints) => pure (wver, wprog_ints.map UInt8.ofNat)
  | none =>
    match b58AddressToHash160 fallback with
    | none => throw (.raised .ValueError)
    | some (addrtype, addr) =>
      if addrtype = net.ADDRTYPE_P2PKH then pure (17, addr)
      else if addrtype = net.ADDRTYPE_P2SH then pure (18, addr)
      else throw .LnEncodeException

/-- `encode_fallback_addr`. -/
def encodeFallbackAddr (fallback : Text) (net : Net) : Except LnErr (List Nat) := do
  let program ← fallbackProgram fallback net
  tagged5 'f' (program.1 :: toData5 program.2)

/-- A step of a route hint as bytes. -/
def encodeHop (step : Hop) : Except LnErr Bytes := do
  let feebase ← toBytesBE step.feebase 4
  let feerate ← toBytesBE step.feerate 4
  let cltv ← toBytesBE step.cltv 2
  pure (step.pubkey ++ step.scid ++ feebase ++ feerate ++ cltv)

/-- The words one entry of `addr.tags` adds to the invoice. -/
def encodeTag (net : Net) : Tag → Except LnErr (List Nat)
  | .r v => do
    let route ← v.mapM encodeHop
    tagged8 'r' route.flatten
  | .t (.inl v) => do
    let feebase ← toBytesBE v.feebase 4
    let feerate ← toBytesBE v.feerate 4
    let cltv ← toBytesBE v.cltv 2
    tagged8 't' (v.pubkey ++ feebase ++ feerate ++ cltv)
  | .t (.inr _) => throw (.raised .ValueError)
  | .f none => pure []
  | .f (some v) => encodeFallbackAddr v net
  | .d v => tagged8 'd' ((encodeUtf8 v).take 639)
  | .x v => tagged5 'x' (digits5 v).reverse
  | .h (.inl v) => tagged8 'h' (sha256 (encodeUtf8 v))
  | .h (.inr _) => throw (.raised .AttributeError)
  | .n v => tagged8 'n' v
  | .c v => tagged5 'c' (digits5 v).reverse
  | .nine v => if v = 0 then pure [] else tagged5 '9' (digits5 v).reverse
  | .other _ => throw .LnEncodeException

/-- The keys that are taken once. -/
def once : List Char := ['d', 'h', 'n', 'x', 'p', 's', '9']

/-- The loop over `addr.tags`: the words it adds, and `tags_set` after it. -/
def encodeTags (net : Net) : List Tag → List Char → Except LnErr (List Nat × List Char)
  | [], tags_set => pure ([], tags_set)
  | tag :: tags, tags_set =>
    if tag.key ∈ once ∧ tag.key ∈ tags_set then throw .LnEncodeException
    else do
      let words ← encodeTag net tag
      -- feature bits of 0 go on with the next tag at once
      let rest ← encodeTags net tags (if tag = .nine 0 then tags_set else tags_set ++ [tag.key])
      pure (words ++ rest.1, rest.2)

/-- `bytes([15] * 104)`. -/
def dummySignature : List Nat := List.replicate 104 15

/-- The prefix of an invoice. -/
def invoiceHrp (addr : LnAddr) : Text :=
  ['l', 'n'] ++ match addr.amount with
    | some amount =>
      if amount ≠ 0 then addr.net.BOLT11_HRP ++ shortenAmount amount else addr.net.BOLT11_HRP
    | none => addr.net.BOLT11_HRP

/-- The words of the payment hash, which has to be there. -/
def hashWords (addr : LnAddr) : Except LnErr (List Nat) :=
  match addr.paymenthash with
  | some paymenthash => tagged8 'p' paymenthash
  | none => throw (.raised .AssertionError)

/-- The words of the payment secret, if there is one. -/
def secretWords (addr : LnAddr) : Except LnErr (List Nat) :=
  match addr.payment_secret with
  | some payment_secret => tagged8 's' payment_secret
  | none => pure []

/-- The prefix and the words of an unsigned invoice. -/
def unsignedParts (addr : LnAddr) : Except LnErr (Text × List Nat) := do
  let date ← intToData5 addr.date (some 35)
  let paymenthash ← hashWords addr
  let secret ← secretWords addr
  let tags ← encodeTags addr.net addr.tags (if addr.payment_secret.isSome then ['p', 's'] else ['p'])
  if 'd' ∈ tags.2 ∧ 'h' ∈ tags.2 then throw (.raised .ValueError)
  else if 'd' ∉ tags.2 ∧ 'h' ∉ tags.2 then throw (.raised .ValueError)
  else pure (invoiceHrp addr, date ++ paymenthash ++ secret ++ tags.1 ++ dummySignature)

/-- `lnencode_unsigned`. -/
def lnencodeUnsigned (addr : LnAddr) : Except LnErr Text := do
  let (hrp, data5) ← unsignedParts addr
  bech32Encode .BECH32 hrp data5

/-- What `signinvoice` makes of the text: other words in the place of the dummy signature, and a
checksum over them. -/
def withSignature (invoice : Text) (signature : List Nat) : Except LnErr Text :=
  match bech32Decode invoice true with
  | none => throw (.raised .RpcError)
  | some (encoding, hrp, data5) =>
    liftM (bech32Encode encoding hrp (data5.take (data5.length - 104) ++ signature))

end Writing

/-! ### The invoices of the plugin -/

/-- A step whose numbers fit the fields they are written to. -/
structure Hop.Fits (hop : Hop) : Prop where
  pubkey : hop.pubkey.length = 33
  scid : hop.scid.length = 8
  feebase : hop.feebase < 2 ^ 32
  feerate : hop.feerate < 2 ^ 32
  cltv : hop.cltv < 2 ^ 16

/-- What `b11invoice_from_hash` makes an invoice of. -/
structure InvoiceData where
  payment_hash : Bytes
  payment_secret : Bytes
  amount_msat : Nat
  date : Nat
  final_cltv : Nat
  description : String
  expiry : Nat
  features : Nat
  routing_hints : List Hop
  hash_length : payment_hash.length = 32
  secret_length : payment_secret.length = 32
  amount_pos : 0 < amount_msat
  amount_le : amount_msat ≤ 21000000 * 10 ^ 11
  date_lt : date < 2 ^ 35
  final_cltv_lt : final_cltv < 2 ^ 35
  description_le : (encodeUtf8 description).length ≤ 639
  expiry_lt : expiry < 2 ^ 35
  features_pos : 0 < features
  hints_fit : ∀ hop ∈ routing_hints, hop.Fits

/-- `Decimal(amount_msat) / Decimal(COIN * 1000)`. -/
def ofMsat (amount_msat : Nat) : ℚ := amount_msat / (100000000 * 1000)

/-- The tags of the `LnAddr` of `b11invoice_from_hash`. Each routing hint is one step. -/
def InvoiceData.tags (invoice : InvoiceData) (fallback_address : Option Text) : List Tag :=
  [.c invoice.final_cltv, .d invoice.description, .x invoice.expiry, .nine invoice.features,
    .f fallback_address] ++ invoice.routing_hints.map fun hop => .r [hop]

/-- The `LnAddr` of `b11invoice_from_hash`. Its callers give no fallback address. -/
def InvoiceData.lnaddr (invoice : InvoiceData) (net : Net) : LnAddr where
  paymenthash := some invoice.payment_hash
  payment_secret := some invoice.payment_secret
  amount := some (ofMsat invoice.amount_msat)
  net := net
  tags := invoice.tags none
  date := invoice.date

/-! ## Reading -/

/-- `pull_tagged`: the tag, its words and what is left. -/
def pullTagged (data5 : List Nat) : Except LnErr (Char × List Nat × List Nat) :=
  match data5 with
  | k :: high :: low :: rest => do
    let length := high * 32 + low
    if rest.length < length then throw (.raised .ValueError)
    let char ← charAt k
    pure (char, rest.take length, rest.drop length)
  | _ => throw (.raised .ValueError)

/-- The steps of a route hint. What is too short for a step at the end is left out. -/
def readRoute (s : Bytes) : List Hop :=
  let cltv := (s.drop 49).take 2
  if _h : cltv.length = 2 then
    { pubkey := s.take 33
      scid := (s.drop 33).take 8
      feebase := fromBytesBE ((s.drop 41).take 4)
      feerate := fromBytesBE ((s.drop 45).take 4)
      cltv := fromBytesBE cltv } :: readRoute (s.drop 51)
  else []
termination_by s.length
decreasing_by
  rw [List.length_take, List.length_drop] at _h
  rw [List.length_drop]
  omega

/-- A trampoline hint, if the bytes are long enough for one. -/
def readTrampoline (s : Bytes) : List Trampoline :=
  let cltv := (s.drop 41).take 2
  if cltv.length = 2 then
    [{ pubkey := s.take 33
       feebase := fromBytesBE ((s.drop 33).take 4)
       feerate := fromBytesBE ((s.drop 37).take 4)
       cltv := fromBytesBE cltv }]
  else []

theorem pullTagged_lt {data5 : List Nat} {char : Char} {tagdata rest : List Nat}
    (h : pullTagged data5 = .ok (char, tagdata, rest)) : rest.length < data5.length := by
  unfold pullTagged at h
  split at h
  · next k high low more =>
    simp only [bind, Except.bind] at h
    split at h
    · cases h
    · split at h
      · cases h
      · cases h
        rw [List.length_drop]
        simp only [List.length_cons]
        omega
  · cases h

section Reading

variable [Codecs]

open Deployment Codecs

/-- `parse_fallback_addr`. -/
def parseFallbackAddr (data5 : List Nat) (net : Net) : Except LnErr (Option Text) :=
  match data5 with
  | [] => throw (.raised .IndexError)
  | wver :: rest => do
    let data8 ← toData8 rest
    if wver = 17 then pure (some (hash160ToB58Address data8 net.ADDRTYPE_P2PKH))
    else if wver = 18 then pure (some (hash160ToB58Address data8 net.ADDRTYPE_P2SH))
    else if wver ≤ 16 then encodeSegwitAddress net.SEGWIT_HRP wver (data8.map UInt8.toNat)
    else pure none

/-- What one tag makes of the invoice. -/
def readTag (addr : LnAddr) (tag : Char) (tagdata : List Nat) : Except LnErr LnAddr :=
  let unknown : LnAddr := { addr with unknown_tags := addr.unknown_tags ++ [(tag, tagdata)] }
  match tag with
  | 'r' =>
    match convertbits tagdata 5 8 false with
    | none | some [] => pure addr
    | some data8 =>
      match readRoute (data8.map UInt8.ofNat) with
      | [] => pure addr
      | route => pure { addr with tags := addr.tags ++ [.r route] }
  | 't' =>
    match convertbits tagdata 5 8 false with
    | none | some [] => pure addr
    | some data8 =>
      pure { addr with tags := addr.tags ++ [.t (.inr (readTrampoline (data8.map UInt8.ofNat)))] }
  | 'f' => do
    match ← parseFallbackAddr tagdata addr.net with
    | some (c :: cs) => pure { addr with tags := addr.tags ++ [.f (some (c :: cs))] }
    | _ => pure unknown
  | 'd' => do
    let data8 ← toData8 tagdata
    let description ← decodeUtf8 data8
    pure { addr with tags := addr.tags ++ [.d description] }
  | 'h' =>
    if tagdata.length ≠ 52 then pure unknown
    else do
      let data8 ← toData8 tagdata
      pure { addr with tags := addr.tags ++ [.h (.inr data8)] }
  | 'x' => pure { addr with tags := addr.tags ++ [.x (intFromData5 tagdata)] }
  | 'p' =>
    if tagdata.length ≠ 52 then pure unknown
    else do
      let data8 ← toData8 tagdata
      pure { addr with paymenthash := some data8 }
  | 's' =>
    if tagdata.length ≠ 52 then pure unknown
    else do
      let data8 ← toData8 tagdata
      pure { addr with payment_secret := some data8 }
  | 'n' =>
    if tagdata.length ≠ 53 then pure unknown
    else do
      let data8 ← toData8 tagdata
      pure { addr with pubkey := some data8 }
  | 'c' => pure { addr with tags := addr.tags ++ [.c (intFromData5 tagdata)] }
  | '9' => pure { addr with tags := addr.tags ++ [.nine (intFromData5 tagdata)] }
  | _ => pure unknown

/-- The loop of `lndecode` over the words between the timestamp and the signature. -/
def readTags (addr : LnAddr) (data5 : List Nat) : Except LnErr LnAddr :=
  if data5 = [] then pure addr
  else
    match _h : pullTagged data5 with
    | .error e => .error e
    | .ok (tag, tagdata, rest) =>
      match readTag addr tag tagdata with
      | .error e => .error e
      | .ok addr => readTags addr rest
termination_by data5.length
decreasing_by exact pullTagged_lt _h

/-- The key of an invoice: the one it names, which has to have signed, or the one that has signed. -/
def signer (addr : LnAddr) (sigdecoded hrp_hash : Bytes) : Except LnErr Bytes :=
  match addr.pubkey with
  | some pubkey => do
    if !(← ecdsaVerify pubkey (sigdecoded.take 64) hrp_hash) then throw .LnDecodeException
    pure pubkey
  | none => fromEcdsaSig64 (sigdecoded.take 64) (sigdecoded.getD 64 0).toNat hrp_hash

variable [Deployment]

/-- The message that is signed: the prefix and the words before the signature. -/
def hrpHash (hrp : Text) (data5 : List Nat) : Bytes :=
  sha256 (hrp.map (fun c => UInt8.ofNat c.toNat) ++
    ((convertbits data5 5 8 true).getD []).map UInt8.ofNat)

/-- The amount in the prefix, if there is one. -/
def readAmount (amountstr : Text) : Except LnErr (Option ℚ) :=
  if amountstr = [] then pure none
  else do
    let value ← unshortenAmount amountstr
    let amount ← checkAmount value
    pure (some amount)

/-- `lndecode`. -/
def lndecode (invoice : Text) (net : Net) : Except LnErr LnAddr :=
  match bech32Decode invoice true with
  | none => throw .LnDecodeException
  | some (encoding, hrp, data5) =>
    if encoding ≠ .BECH32 then throw .LnDecodeException
    else if ¬ ['l', 'n'].isPrefixOf hrp then throw .LnDecodeException
    else if ¬ net.BOLT11_HRP.isPrefixOf (hrp.drop 2) then throw .LnDecodeException
    else if data5.length < 104 then throw .LnDecodeException
    else do
      let sigdecoded ← toData8 (data5.drop (data5.length - 104))
      let data5 := data5.take (data5.length - 104)
      let amount ← readAmount (hrp.drop (2 + net.BOLT11_HRP.length))
      let addr : LnAddr := {
        paymenthash := none
        payment_secret := none
        amount := amount
        net := net
        tags := []
        date := intFromData5 (data5.take 7) }
      let addr ← readTags addr (data5.drop 7)
      let pubkey ← signer addr sigdecoded (hrpHash hrp data5)
      pure { addr with signature := some (sigdecoded.take 65), pubkey := some pubkey }

/-- The key can be recovered from the signature of an invoice. -/
def Recoverable (invoice : Text) : Prop :=
  ∃ encoding hrp data5 sigdecoded key, bech32Decode invoice true = some (encoding, hrp, data5) ∧
    toData8 (data5.drop (data5.length - 104)) = .ok sigdecoded ∧
    fromEcdsaSig64 (sigdecoded.take 64) (sigdecoded.getD 64 0).toNat
      (hrpHash hrp (data5.take (data5.length - 104))) = .ok key

end Reading

end SubswapProvider.Bolt11
