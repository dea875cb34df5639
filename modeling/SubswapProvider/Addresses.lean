import SubswapProvider.Scripts
import SubswapProvider.Canonical
import SubswapProvider.Base58
import SubswapProvider.Bolt11

/-!
# Addresses

`get_address_from_output_script` names the receiver of an output, and `address_to_script` writes the script
that pays an address. On the networks the plugin can be configured for, the script of the address of a
script is that script if and only if every push has the bytes it announces (`addressToScript_address`), and
the address of the script of an address is that address in small letters (`address_addressToScript`).
-/

namespace SubswapProvider.Chain

open Bech32 Base58
open Bolt11 (Net)

/-- `PluginConfig.__parse_network_type`. -/
def parseNetworkType (network_type : String) : Option Net :=
  if network_type = "mainnet" then some .mainnet
  else if network_type = "testnet" then some .testnet
  else if network_type = "signet" then some .signet
  else if network_type = "regtest" then some .regtest
  else none

/-! ## From scripts to addresses -/

/-- `hash_to_segwit_addr`. -/
def hashToSegwitAddr (h : Bytes) (witver : Nat) (net : Net) : Except PyErr Text := do
  let addr ← encodeSegwitAddress net.SEGWIT_HRP witver (h.map UInt8.toNat)
  match addr with
  | none => throw .AssertionError
  | some addr => pure addr

/-- `hash160_to_p2pkh`. -/
def hash160ToP2pkh (sha256d : Digest) (h160 : Bytes) (net : Net) : Text :=
  hash160ToB58Address sha256d h160 (UInt8.ofNat net.ADDRTYPE_P2PKH)

/-- `hash160_to_p2sh`. -/
def hash160ToP2sh (sha256d : Digest) (h160 : Bytes) (net : Net) : Text :=
  hash160ToB58Address sha256d h160 (UInt8.ofNat net.ADDRTYPE_P2SH)

/-- `script_to_p2wsh`. -/
def scriptToP2wsh (sha256 : Digest) (script : Bytes) (net : Net) : Except PyErr Text :=
  hashToSegwitAddr (sha256.hash script) 0 net

/-- `decoded[i][1]`, where a template has a push. -/
def pushed (decoded : List Op) (i : Nat) : Bytes := (decoded[i]?.bind Prod.snd).getD []

/-- `OP_1` to `OP_16`. -/
def versionOpcode (witver : Nat) : UInt8 := UInt8.ofNat (0x50 + witver)

/-- `get_address_from_output_script`. -/
def getAddressFromOutputScript (sha256d : Digest) (bytes : Bytes) (net : Net) :
    Except PyErr (Option Text) :=
  match scriptGetOp bytes with
  | none => pure none
  | some decoded =>
    if matchTemplate decoded SCRIPTPUBKEY_TEMPLATE_P2PKH then
      pure (some (hash160ToP2pkh sha256d (pushed decoded 2) net))
    else if matchTemplate decoded SCRIPTPUBKEY_TEMPLATE_P2SH then
      pure (some (hash160ToP2sh sha256d (pushed decoded 1) net))
    else if matchTemplate decoded SCRIPTPUBKEY_TEMPLATE_WITNESS_V0 then
      (hashToSegwitAddr (pushed decoded 1) 0 net).map some
    else
      match (List.range' 1 16).find? fun witver =>
          matchTemplate decoded (witnessTemplate (versionOpcode witver)) with
      | some witver => (hashToSegwitAddr (pushed decoded 1) witver net).map some
      | none => pure none

/-! ## From addresses to scripts -/

/-- `pubkeyhash_to_p2pkh_script`. -/
def pubkeyhashToP2pkhScript (pubkey_hash160 : Bytes) : Bytes :=
  constructScript [
    .opcode 0x76,        -- OP_DUP
    .opcode 0xa9,        -- OP_HASH160
    .data pubkey_hash160,
    .opcode 0x88,        -- OP_EQUALVERIFY
    .opcode 0xac]        -- OP_CHECKSIG

/-- `is_segwit_address`. -/
def isSegwitAddress (addr : Text) (net : Net) : Bool := (decodeSegwitAddress net.SEGWIT_HRP addr).isSome

/-- `is_b58_address`. -/
def isB58Address (sha256d : Digest) (addr : Text) (net : Net) : Bool :=
  (b58AddressToHash160 sha256d addr).any fun p =>
    p.1.toNat ∈ [net.ADDRTYPE_P2PKH, net.ADDRTYPE_P2SH]

/-- `is_address`. -/
def isAddress (sha256d : Digest) (addr : Text) (net : Net) : Bool :=
  isSegwitAddress addr net || isB58Address sha256d addr net

/-- `address_to_script`. `none` is a `BitcoinException`. -/
def addressToScript (sha256d : Digest) (addr : Text) (net : Net) : Option Bytes :=
  if !isAddress sha256d addr net then none
  else
    match decodeSegwitAddress net.SEGWIT_HRP addr with
    | some (witver, witprog) =>
      if 16 < witver then none
      else some (constructScript [.number witver, .data (witprog.map UInt8.ofNat)])
    | none => do
      let (addrtype, hash_160_) ← b58AddressToHash160 sha256d addr
      if addrtype.toNat = net.ADDRTYPE_P2PKH then some (pubkeyhashToP2pkhScript hash_160_)
      else if addrtype.toNat = net.ADDRTYPE_P2SH then
        some (constructScript [.opcode 0xa9, .data hash_160_, .opcode 0x87])
      else none

/-! ## The scripts of addresses -/

/-- The opcode `construct_script` writes for a witness version. -/
def witnessOpcode (witver : Nat) : UInt8 := if witver = 0 then 0x00 else versionOpcode witver

theorem witnessOpcode_bytes : ∀ witver ≤ 16,
    pushScript (scriptNumToBytes witver) = [witnessOpcode witver] ∧
      itemOp (.number witver) = (witnessOpcode witver, if witver = 0 then some [] else none) := by
  decide +kernel

/-- A push of up to 75 bytes, but for the short ones that have opcodes. -/
theorem pushScript_short {b : Bytes} (hleast : 2 ≤ b.length) (hmost : b.length < 0x4c) :
    pushScript b = UInt8.ofNat b.length :: b ∧ pushedOp b = (UInt8.ofNat b.length, some b) := by
  match b, hleast with
  | [_], h => simp at h
  | x :: y :: l, _ =>
    have hmod : (x :: y :: l).length % 256 = (x :: y :: l).length := Nat.mod_eq_of_lt (by omega)
    constructor
    · unfold pushScript opPush
      rw [if_pos hmost]
      simp only [toBytesLE, hmod]
      rfl
    · unfold pushedOp pushOpcode
      rw [if_pos hmost]

/-- The script that pays a witness program. -/
theorem constructScript_witness {witver : Nat} {witprog : Bytes} (hversion : witver ≤ 16)
    (hleast : 2 ≤ witprog.length) (hmost : witprog.length ≤ 40) :
    constructScript [.number witver, .data witprog] =
      witnessOpcode witver :: UInt8.ofNat witprog.length :: witprog := by
  have hpush := (pushScript_short hleast (by omega)).1
  show pushScript (scriptNumToBytes witver) ++ (pushScript witprog ++ []) = _
  rw [(witnessOpcode_bytes witver hversion).1, hpush, List.append_nil]
  rfl

theorem constructScript_p2pkh {h160 : Bytes} (hlen : h160.length = 20) :
    pubkeyhashToP2pkhScript h160 = 0x76 :: 0xa9 :: 20 :: (h160 ++ [0x88, 0xac]) := by
  have hpush := (pushScript_short (b := h160) (by omega) (by omega)).1
  rw [hlen] at hpush
  show [0x76] ++ ([0xa9] ++ (pushScript h160 ++ ([0x88] ++ ([0xac] ++ [])))) = _
  rw [hpush]
  rfl

theorem constructScript_p2sh {h160 : Bytes} (hlen : h160.length = 20) :
    constructScript [.opcode 0xa9, .data h160, .opcode 0x87] = 0xa9 :: 20 :: (h160 ++ [0x87]) := by
  have hpush := (pushScript_short (b := h160) (by omega) (by omega)).1
  rw [hlen] at hpush
  show [0xa9] ++ (pushScript h160 ++ ([0x87] ++ [])) = _
  rw [hpush]
  rfl

/-! ## Scripts that have an address -/

section Paid

variable {sha256d : Digest} {net : Net} {script : Bytes} {addr : Text} {ops : List Op}

/-- A script, with its address. A push at the end of the script may announce more than there is. -/
inductive Paid (sha256d : Digest) (net : Net) : Bytes → Text → Prop
  | p2pkh (h160 : Bytes) (hlen : h160.length = 20) :
      Paid sha256d net (pubkeyhashToP2pkhScript h160) (hash160ToP2pkh sha256d h160 net)
  | p2sh (h160 : Bytes) (hlen : h160.length = 20) :
      Paid sha256d net (constructScript [.opcode 0xa9, .data h160, .opcode 0x87])
        (hash160ToP2sh sha256d h160 net)
  | witness (witver : Nat) (witprog : Bytes) (n : UInt8) (addr : Text) (hversion : witver ≤ 16)
      (hn : if witver = 0 then n = 20 ∨ n = 32 else 2 ≤ n.toNat ∧ n.toNat ≤ 40)
      (hlen : witprog.length ≤ n.toNat)
      (haddr : hashToSegwitAddr witprog witver net = .ok addr) :
      Paid sha256d net (witnessOpcode witver :: n :: witprog) addr

theorem cut_p2pkh (hcut : scriptGetOp script = some ops)
    (h : matchTemplate ops SCRIPTPUBKEY_TEMPLATE_P2PKH = true) :
    (pushed ops 2).length = 20 ∧ script = pubkeyhashToP2pkhScript (pushed ops 2) := by
  match ops, matchTemplate_iff.mp h with
  | [a, b, c, d, e], .cons ha (.cons hb (.cons hc (.cons hd (.cons he .nil)))) =>
    have hsize : c.1.toNat = 20 := of_decide_eq_true hc
    obtain ⟨r1, rfl, h1⟩ := uncons_opcode hcut (of_decide_eq_true ha) (by decide)
    obtain ⟨r2, rfl, h2⟩ := uncons_opcode h1 (of_decide_eq_true hb) (by decide)
    obtain ⟨h160, r3, hdata, rfl, -, hfull, h3⟩ := uncons_push h2 (by omega)
    obtain ⟨r4, rfl, h4⟩ := uncons_opcode h3 (of_decide_eq_true hd) (by decide)
    obtain ⟨r5, rfl, h5⟩ := uncons_opcode h4 (of_decide_eq_true he) (by decide)
    have hpushed : pushed [a, b, c, d, e] 2 = h160 := by
      show c.2.getD [] = h160
      rw [hdata]
      rfl
    have hlen : h160.length = 20 := (hfull (by simp)).trans hsize
    have hc20 : c.1 = 20 := UInt8.toNat_inj.mp hsize
    rw [hpushed, constructScript_p2pkh hlen, scriptGetOp_eq_nil h5, hc20]
    exact ⟨hlen, rfl⟩

theorem cut_p2sh (hcut : scriptGetOp script = some ops)
    (h : matchTemplate ops SCRIPTPUBKEY_TEMPLATE_P2SH = true) :
    (pushed ops 1).length = 20 ∧
      script = constructScript [.opcode 0xa9, .data (pushed ops 1), .opcode 0x87] := by
  match ops, matchTemplate_iff.mp h with
  | [a, b, c], .cons ha (.cons hb (.cons hc .nil)) =>
    have hsize : b.1.toNat = 20 := of_decide_eq_true hb
    obtain ⟨r1, rfl, h1⟩ := uncons_opcode hcut (of_decide_eq_true ha) (by decide)
    obtain ⟨h160, r2, hdata, rfl, -, hfull, h2⟩ := uncons_push h1 (by omega)
    obtain ⟨r3, rfl, h3⟩ := uncons_opcode h2 (of_decide_eq_true hc) (by decide)
    have hpushed : pushed [a, b, c] 1 = h160 := by
      show b.2.getD [] = h160
      rw [hdata]
      rfl
    have hlen : h160.length = 20 := (hfull (by simp)).trans hsize
    have hb20 : b.1 = 20 := UInt8.toNat_inj.mp hsize
    rw [hpushed, constructScript_p2sh hlen, scriptGetOp_eq_nil h3, hb20]
    exact ⟨hlen, rfl⟩

theorem witnessOpcode_plain : ∀ witver ≤ 16, witver ≠ 0 → 0x4e < witnessOpcode witver := by decide

/-- `OP_0` is a push of nothing, the other versions are opcodes. -/
theorem uncons_version {op : Op} {witver : Nat} (hcut : scriptGetOp script = some (op :: ops))
    (hversion : witver ≤ 16) (hop : witnessOpcode witver = op.1) :
    ∃ rest, script = witnessOpcode witver :: rest ∧ scriptGetOp rest = some ops := by
  by_cases hzero : witver = 0
  · subst hzero
    have h0 : op.1.toNat = 0 := congrArg UInt8.toNat hop.symm
    obtain ⟨data, rest, -, heq, hlen, -, hrest⟩ := uncons_push hcut (by omega)
    rw [h0, Nat.le_zero, List.length_eq_zero_iff] at hlen
    rw [hlen, ← hop] at heq
    exact ⟨rest, heq, hrest⟩
  · exact uncons_opcode hcut hop (witnessOpcode_plain witver hversion hzero)

theorem cut_witness {witver : Nat} {check_data_len : Nat → Bool} (hcut : scriptGetOp script = some ops)
    (hversion : witver ≤ 16) (hcheck : ∀ n, check_data_len n = true → n < 0x4c)
    (h : matchTemplate ops [.opcode (witnessOpcode witver), .pushData check_data_len] = true) :
    ∃ n : UInt8, script = witnessOpcode witver :: n :: pushed ops 1 ∧ check_data_len n.toNat = true ∧
      (pushed ops 1).length ≤ n.toNat := by
  match ops, matchTemplate_iff.mp h with
  | [a, b], .cons ha (.cons hb .nil) =>
    obtain ⟨r1, rfl, h1⟩ := uncons_version hcut hversion (of_decide_eq_true ha)
    obtain ⟨witprog, r2, hdata, rfl, hlen, -, h2⟩ := uncons_push h1 (hcheck _ hb)
    have hpushed : pushed [a, b] 1 = witprog := by
      show b.2.getD [] = witprog
      rw [hdata]
      rfl
    rw [hpushed, scriptGetOp_eq_nil h2, List.append_nil]
    exact ⟨b.1, rfl, hb, hlen⟩

/-- The operations of a script that pays a witness program, whether its push is complete or not. -/
theorem scriptGetOp_witness {witver : Nat} {n : UInt8} {witprog : Bytes} (hversion : witver ≤ 16)
    (hn : n.toNat < 0x4c) (hlen : witprog.length ≤ n.toNat) :
    scriptGetOp (witnessOpcode witver :: n :: witprog) =
      some [(witnessOpcode witver, if witver = 0 then some [] else none), (n, some witprog)] := by
  have hprog : scriptGetOp (n :: witprog) = some [(n, some witprog)] := by
    have hop := getOp_direct hn witprog
    rw [UInt8.ofNat_toNat, List.take_of_length_le hlen, List.drop_of_length_le hlen] at hop
    rw [scriptGetOp_cons, hop]
    rfl
  by_cases hzero : witver = 0
  · subst hzero
    rw [scriptGetOp_cons]
    show (scriptGetOp (n :: witprog)).map _ = _
    rw [hprog]
    rfl
  · have hplain := witnessOpcode_plain witver hversion hzero
    rw [scriptGetOp_cons]
    unfold getOp
    rw [if_neg (UInt8.not_le.mpr hplain), Option.bind_some, hprog, if_neg hzero]
    rfl

theorem matchTemplate_two (a b : Op) (o : UInt8) (check_data_len : Nat → Bool) :
    matchTemplate [a, b] [.opcode o, .pushData check_data_len] =
      (decide (o = a.1) && check_data_len b.1.toNat) := by
  simp [matchTemplate, TemplateItem.matches]

theorem find_version : ∀ witver ≤ 16, (List.range' 1 16).find? (fun w =>
    decide (versionOpcode w = witnessOpcode witver)) = if witver = 0 then none else some witver := by
  decide

theorem scriptGetOp_p2pkh {h160 : Bytes} (hlen : h160.length = 20) :
    scriptGetOp (pubkeyhashToP2pkhScript h160) =
      some [(0x76, none), (0xa9, none), (20, some h160), (0x88, none), (0xac, none)] := by
  have hop := (pushScript_short (b := h160) (by omega) (by omega)).2
  rw [hlen] at hop
  unfold pubkeyhashToP2pkhScript
  rw [scriptGetOp_constructScript (by simp [ItemFits, hlen])]
  simp only [List.map_cons, List.map_nil, itemOp, hop]
  rfl

theorem scriptGetOp_p2sh {h160 : Bytes} (hlen : h160.length = 20) :
    scriptGetOp (constructScript [.opcode 0xa9, .data h160, .opcode 0x87]) =
      some [(0xa9, none), (20, some h160), (0x87, none)] := by
  have hop := (pushScript_short (b := h160) (by omega) (by omega)).2
  rw [hlen] at hop
  rw [scriptGetOp_constructScript (by simp [ItemFits, hlen])]
  simp only [List.map_cons, List.map_nil, itemOp, hop]
  rfl

theorem map_some_eq_ok {x : Except PyErr Text} : x.map some = .ok (some addr) ↔ x = .ok addr := by
  cases x <;> simp [Except.map]

/-- **The scripts that have an address**, and which address it is. -/
theorem getAddress_eq_ok_iff :
    getAddressFromOutputScript sha256d script net = .ok (some addr) ↔ Paid sha256d net script addr := by
  constructor
  · intro h
    unfold getAddressFromOutputScript at h
    split at h
    · cases h
    next decoded hcut =>
    split at h
    · next hp2pkh =>
      cases h
      obtain ⟨hlen, hscript⟩ := cut_p2pkh hcut hp2pkh
      exact hscript ▸ .p2pkh _ hlen
    split at h
    · next hp2sh =>
      cases h
      obtain ⟨hlen, hscript⟩ := cut_p2sh hcut hp2sh
      exact hscript ▸ .p2sh _ hlen
    split at h
    · next hv0 =>
      obtain ⟨n, hscript, hn, hlen⟩ := cut_witness hcut (Nat.zero_le 16) (by simp) hv0
      rw [hscript]
      refine .witness 0 _ n addr (Nat.zero_le 16) ?_ hlen (map_some_eq_ok.mp h)
      simpa [← UInt8.toNat_inj] using hn
    · split at h
      · next witver hfind =>
        have hmatch := List.find?_some hfind
        obtain ⟨hpos, hle⟩ := List.mem_range'_1.mp (List.mem_of_find?_eq_some hfind)
        have hopcode : versionOpcode witver = witnessOpcode witver := (if_neg (by omega)).symm
        unfold witnessTemplate at hmatch
        rw [hopcode] at hmatch
        obtain ⟨n, hscript, hn, hlen⟩ := cut_witness hcut (by omega) (by simp; omega) hmatch
        rw [hscript]
        refine .witness witver _ n addr (by omega) ?_ hlen (map_some_eq_ok.mp h)
        rw [if_neg (by omega)]
        simpa using hn
      · cases h
  · intro h
    unfold getAddressFromOutputScript
    cases h with
    | p2pkh h160 hlen =>
      rw [scriptGetOp_p2pkh hlen]
      rfl
    | p2sh h160 hlen =>
      rw [scriptGetOp_p2sh hlen]
      rfl
    | witness witver witprog n addr hversion hn hlen haddr =>
      have hsize : 2 ≤ n.toNat ∧ n.toNat ≤ 40 := by
        split at hn
        · rcases hn with rfl | rfl <;> decide
        · exact hn
      rw [scriptGetOp_witness hversion (by omega) hlen]
      show (if _ then _ else if _ then _ else if matchTemplate _ [.opcode 0x00, .pushData _] then _ else _) = _
      rw [if_neg (by simp [matchTemplate, SCRIPTPUBKEY_TEMPLATE_P2PKH]),
        if_neg (by simp [matchTemplate, SCRIPTPUBKEY_TEMPLATE_P2SH]), matchTemplate_two]
      by_cases hzero : witver = 0
      · subst hzero
        rw [if_pos rfl] at hn
        rw [if_pos (by rcases hn with rfl | rfl <;> rfl)]
        exact map_some_eq_ok.mpr haddr
      · have hne : (0x00 : UInt8) ≠ witnessOpcode witver := by
          intro heq
          have hplain := witnessOpcode_plain witver hversion hzero
          rw [← heq] at hplain
          exact absurd hplain (by decide)
        have hfind : ∀ w, matchTemplate [(witnessOpcode witver, none), (n, some witprog)]
            (witnessTemplate (versionOpcode w)) = decide (versionOpcode w = witnessOpcode witver) := by
          intro w
          unfold witnessTemplate
          rw [matchTemplate_two]
          simp [hsize]
        rw [if_neg (by simp [hne]), if_neg hzero]
        simp only [hfind, find_version witver hversion, if_neg hzero]
        exact map_some_eq_ok.mpr haddr

end Paid

/-! ## Telling the two kinds of addresses apart -/

section Kinds

variable {sha256d : Digest} {net : Net} {addr : Text} {h160 : Bytes}

/-- The first character of a base 58 address is told by its version byte. -/
theorem head_b58Address {t : UInt8} {k lo hi : Nat} (hlen : h160.length = 20) (hlo : 1 ≤ lo) (hhi : hi < 58)
    (hlow : 58 ^ k * lo ≤ t.toNat * 256 ^ 24) (hhigh : (t.toNat + 1) * 256 ^ 24 ≤ 58 ^ k * (hi + 1)) :
    ∃ d, lo ≤ d ∧ d ≤ hi ∧ (hash160ToB58Address sha256d h160 t).head? = some (b58chars.char d) := by
  have hpow : 0 < 58 ^ k := Nat.pow_pos (by decide)
  have hne : t ≠ 0 := by
    rintro rfl
    rw [show (0 : UInt8).toNat = 0 from rfl, Nat.zero_mul, Nat.le_zero, Nat.mul_eq_zero] at hlow
    omega
  let tail := h160 ++ (sha256d.hash (t :: h160)).take 4
  have htail : tail.length = 24 := by rw [List.length_append, length_csum, hlen]
  have hvalue : fromBytesBE (t :: tail) = t.toNat * 256 ^ 24 + Radix.value 256 (tail.map UInt8.toNat) := by
    unfold fromBytesBE
    rw [List.map_cons, Radix.value_cons, List.length_map, htail]
  have hrest : Radix.value 256 (tail.map UInt8.toNat) < 256 ^ 24 := by
    have hlt := Radix.value_lt (b := 256) (l := tail.map UInt8.toNat) (by decide) fun v hv => by
      obtain ⟨b, -, rfl⟩ := List.mem_map.mp hv
      exact b.toNat_lt
    rwa [List.length_map, htail] at hlt
  have haddress : hash160ToB58Address sha256d h160 t =
      (Radix.digits 58 (fromBytesBE (t :: tail))).map b58chars.char := by
    show baseEncode b58chars (t :: tail) = _
    unfold baseEncode
    rw [List.dropWhile_cons_of_neg (by simpa using hne)]
    dsimp only
    rw [Nat.sub_self]
    rfl
  generalize fromBytesBE (t :: tail) = n at hvalue haddress
  have hfirst : 58 ^ k ≤ n := by
    calc 58 ^ k = 58 ^ k * 1 := (Nat.mul_one _).symm
      _ ≤ 58 ^ k * lo := Nat.mul_le_mul_left _ hlo
      _ ≤ n := by omega
  have hlast : n < 58 ^ k * (hi + 1) := by
    rw [Nat.add_mul, Nat.one_mul] at hhigh
    omega
  have hend : n < 58 ^ (k + 1) := by
    rw [Nat.pow_succ]
    exact Nat.lt_of_lt_of_le hlast (Nat.mul_le_mul_left _ (by omega))
  refine ⟨n / 58 ^ k, ?_, ?_, ?_⟩
  · rw [Nat.le_div_iff_mul_le hpow, Nat.mul_comm]
    omega
  · rw [← Nat.lt_succ_iff, Nat.div_lt_iff_lt_mul hpow, Nat.mul_comm]
    exact hlast
  · rw [haddress, List.head?_map, Radix.head_digits (by decide) hfirst hend]
    rfl

theorem head_configured {t : UInt8} (hlen : h160.length = 20) (ht : t ∈ ([0, 5, 111, 196] : List UInt8)) :
    ∃ c ∈ ['1', '2', '3', 'm', 'n'], (hash160ToB58Address sha256d h160 t).head? = some c := by
  simp only [List.mem_cons, List.not_mem_nil, or_false] at ht
  rcases ht with rfl | rfl | rfl | rfl
  · -- a zero byte in front is a character of its own
    refine ⟨'1', by decide, ?_⟩
    show (baseEncode b58chars (0 :: (h160 ++ (sha256d.hash (0 :: h160)).take 4))).head? = some '1'
    rw [baseEncode_eq, List.head?_map]
    unfold Radix.rebase
    rw [List.map_cons, List.takeWhile_cons_of_pos (by rfl)]
    rfl
  · obtain ⟨d, hlow, hhigh, hhead⟩ := @head_b58Address sha256d h160 5 33 2 2 hlen (by decide) (by decide)
      (by decide) (by decide)
    refine ⟨_, ?_, hhead⟩
    rw [show d = 2 by omega]
    decide
  · obtain ⟨d, hlow, hhigh, hhead⟩ := @head_b58Address sha256d h160 111 33 44 45 hlen (by decide)
      (by decide) (by decide) (by decide)
    refine ⟨_, ?_, hhead⟩
    rcases (show d = 44 ∨ d = 45 by omega) with rfl | rfl <;> decide
  · obtain ⟨d, hlow, hhigh, hhead⟩ := @head_b58Address sha256d h160 196 34 1 1 hlen (by decide) (by decide)
      (by decide) (by decide)
    refine ⟨_, ?_, hhead⟩
    rw [show d = 1 by omega]
    decide

/-- A segwit address begins as its prefix does. -/
theorem head_segwit {hrp : Text} {p : Nat × List Nat} {c : Char}
    (h : decodeSegwitAddress hrp addr = some p) (hc : addr.head? = some c) :
    hrp.head? = some (lower c) := by
  obtain ⟨data, hdecode, -, -⟩ := decodeSegwit_iff.mp (show _ = some (p.1, p.2) from h)
  obtain ⟨words, pos, hfound, -, -⟩ := found_of_decode hdecode
  have hlower := congrArg List.head? hfound.lower_eq
  rw [List.head?_map, hc, Option.map_some, List.head?_append_of_ne_nil _ hfound.prefixes.ne_nil] at hlower
  exact hlower.symm

/-- **No base 58 address is a segwit address**, on a network of the plugin. -/
theorem b58_not_segwit {network_type : String} (hnet : parseNetworkType network_type = some net)
    (hlen : h160.length = 20) {addrtype : Nat}
    (htype : addrtype = net.ADDRTYPE_P2PKH ∨ addrtype = net.ADDRTYPE_P2SH) :
    decodeSegwitAddress net.SEGWIT_HRP (hash160ToB58Address sha256d h160 (UInt8.ofNat addrtype)) = none := by
  have hnets : net ∈ [Net.mainnet, .testnet, .signet, .regtest] := by
    unfold parseNetworkType at hnet
    repeat' split at hnet
    all_goals cases hnet <;> decide
  have htypes : UInt8.ofNat addrtype ∈ ([0, 5, 111, 196] : List UInt8) := by
    rcases htype with rfl | rfl <;> cases net <;> first | decide | exact absurd hnets (by decide)
  obtain ⟨c, hc, hhead⟩ := @head_configured sha256d h160 _ hlen htypes
  cases hdecode : decodeSegwitAddress net.SEGWIT_HRP
      (hash160ToB58Address sha256d h160 (UInt8.ofNat addrtype)) with
  | none => rfl
  | some p =>
    have hprefix := head_segwit hdecode hhead
    have hlower : (['1', '2', '3', 'm', 'n'].all fun c => lower c ≠ 'b' && lower c ≠ 't') = true := by
      decide
    have hdigit := List.all_eq_true.mp hlower c hc
    rw [Bool.and_eq_true, decide_eq_true_eq, decide_eq_true_eq] at hdigit
    cases net with
    | mainnet => exact absurd (Option.some.inj hprefix).symm hdigit.1
    | regtest => exact absurd (Option.some.inj hprefix).symm hdigit.1
    | testnet => exact absurd (Option.some.inj hprefix).symm hdigit.2
    | signet => exact absurd (Option.some.inj hprefix).symm hdigit.2
    | testnet4 => exact absurd hnets (by decide)
    | simnet => exact absurd hnets (by decide)

end Kinds

/-! ## A key hash to try the model on -/

namespace Sample

def keyHash : Bytes := (List.range 20).map fun i => UInt8.ofNat (i + 1)

/-- `sha256d`, of the payload of the address of `keyHash` on the main network. -/
def digest : Digest where
  hash b := if b = 0 :: keyHash then [
      250, 85, 182, 74, 248, 13, 108, 236, 180, 187, 88, 254, 68, 144, 231, 240,
      233, 56, 34, 243, 141, 16, 189, 191, 231, 62, 49, 70, 24, 147, 222, 178]
    else List.replicate 32 0
  length_hash b := by
    split
    · rfl
    · rfl

end Sample

/-! ## There and back -/

section RoundTrip

variable {sha256d : Digest} {net : Net} {addr : Text} {h160 script : Bytes} {network_type : String}

/-- Every push of the script has the bytes it announces. -/
def Whole (script : Bytes) : Prop :=
  ∀ ops, scriptGetOp script = some ops → ∀ op ∈ ops, ∀ data, op.2 = some data →
    data.length = op.1.toNat

theorem whole_iff {ops : List Op} (h : scriptGetOp script = some ops) :
    Whole script ↔ ∀ op ∈ ops, ∀ data, op.2 = some data → data.length = op.1.toNat := by
  unfold Whole
  rw [h]
  simp

theorem addrtypes (net : Net) : (UInt8.ofNat net.ADDRTYPE_P2PKH).toNat = net.ADDRTYPE_P2PKH ∧
    (UInt8.ofNat net.ADDRTYPE_P2SH).toNat = net.ADDRTYPE_P2SH ∧
    net.ADDRTYPE_P2SH ≠ net.ADDRTYPE_P2PKH := by
  cases net <;> decide

/-- The script of a base 58 address. -/
theorem addressToScript_b58 {addrtype : Nat} (hnet : parseNetworkType network_type = some net)
    (hlen : h160.length = 20) (htype : addrtype = net.ADDRTYPE_P2PKH ∨ addrtype = net.ADDRTYPE_P2SH)
    (hbyte : (UInt8.ofNat addrtype).toNat = addrtype) :
    addressToScript sha256d (hash160ToB58Address sha256d h160 (UInt8.ofNat addrtype)) net =
      some (if addrtype = net.ADDRTYPE_P2PKH then pubkeyhashToP2pkhScript h160
        else constructScript [.opcode 0xa9, .data h160, .opcode 0x87]) := by
  have hpayload := b58AddressToHash160_eq_some_iff.mpr
    ⟨hlen, Eq.refl (hash160ToB58Address sha256d h160 (UInt8.ofNat addrtype))⟩
  have haddress : isAddress sha256d (hash160ToB58Address sha256d h160 (UInt8.ofNat addrtype)) net =
      true := by
    unfold isAddress isB58Address
    rw [hpayload]
    simp [hbyte, htype]
  unfold addressToScript
  rw [haddress, b58_not_segwit hnet hlen htype, hpayload]
  show (if _ then _ else if _ then _ else _) = _
  rw [hbyte]
  rcases htype with rfl | rfl
  · rw [if_pos rfl, if_pos rfl]
    rfl
  · rw [if_neg (addrtypes net).2.2, if_pos rfl, if_neg (addrtypes net).2.2]
    rfl

theorem prefixes_net (net : Net) : Prefixes net.SEGWIT_HRP := by
  have hall : net.SEGWIT_HRP.all (fun c => 33 ≤ c.toNat && c.toNat ≤ 126) = true := by
    cases net <;> decide
  refine ⟨by cases net <;> decide, fun c hc => ?_, by cases net <;> decide⟩
  simpa using List.all_eq_true.mp hall c hc

/-- What the address of a witness program is read as. -/
theorem decode_hashToSegwitAddr {witver : Nat} {witprog : Bytes} (hversion : witver ≤ 16)
    (h : hashToSegwitAddr witprog witver net = .ok addr) :
    decodeSegwitAddress net.SEGWIT_HRP addr = some (witver, witprog.map UInt8.toNat) := by
  unfold hashToSegwitAddr at h
  cases hencode : encodeSegwitAddress net.SEGWIT_HRP witver (witprog.map UInt8.toNat) with
  | error e =>
    rw [hencode] at h
    cases h
  | ok o =>
    rw [hencode] at h
    cases o with
    | none => cases h
    | some addr' =>
      cases h
      apply decode_encodeSegwit (prefixes_net net) (by omega) _ hencode
      intro v hv
      obtain ⟨b, -, rfl⟩ := List.mem_map.mp hv
      exact b.toNat_lt

/-- The script of a segwit address. -/
theorem addressToScript_segwit {witver : Nat} {witprog : List Nat}
    (h : decodeSegwitAddress net.SEGWIT_HRP addr = some (witver, witprog)) :
    addressToScript sha256d addr net = some (witnessOpcode witver :: UInt8.ofNat witprog.length ::
      witprog.map UInt8.ofNat) := by
  obtain ⟨-, -, -, hprog⟩ := decodeSegwit_iff.mp h
  have hscript := @constructScript_witness witver (witprog.map UInt8.ofNat) hprog.version
    (by simpa using hprog.least) (by simpa using hprog.most)
  rw [List.length_map] at hscript
  unfold addressToScript isAddress isSegwitAddress
  rw [h, ← hscript]
  show (if 16 < witver then _ else _) = _
  rw [if_neg (Nat.not_lt.mpr hprog.version)]

/-- **From a script to its address and back**: the script that is paid is the one the address was taken
from, unless its last push announces more than there is. -/
theorem addressToScript_address (hnet : parseNetworkType network_type = some net)
    (h : getAddressFromOutputScript sha256d script net = .ok (some addr)) :
    addressToScript sha256d addr net = some script ↔ Whole script := by
  obtain ⟨hpkh, hsh, hne⟩ := addrtypes net
  cases getAddress_eq_ok_iff.mp h with
  | p2pkh h160 hlen =>
    have hscript := @addressToScript_b58 sha256d net h160 _ _ hnet hlen (.inl rfl) hpkh
    rw [if_pos rfl] at hscript
    rw [whole_iff (scriptGetOp_p2pkh hlen)]
    exact iff_of_true hscript (by simp [hlen])
  | p2sh h160 hlen =>
    have hscript := @addressToScript_b58 sha256d net h160 _ _ hnet hlen (.inr rfl) hsh
    rw [if_neg hne] at hscript
    rw [whole_iff (scriptGetOp_p2sh hlen)]
    exact iff_of_true hscript (by simp [hlen])
  | witness witver witprog n addr hversion hn hlen haddr =>
    have hsize : n.toNat ≤ 40 := by
      split at hn
      · rcases hn with rfl | rfl <;> decide
      · exact hn.2
    have hscript := @addressToScript_segwit sha256d net addr _ _ (decode_hashToSegwitAddr hversion haddr)
    rw [List.length_map, ofNat_toNat_map] at hscript
    have hsame : UInt8.ofNat witprog.length = n ↔ witprog.length = n.toNat := by
      rw [← UInt8.toNat_inj, UInt8.toNat_ofNat_of_lt' (show witprog.length < 2 ^ 8 by omega)]
    have hopcode : witver = 0 → 0 = (witnessOpcode witver).toNat := by
      rintro rfl
      rfl
    rw [hscript, whole_iff (scriptGetOp_witness hversion (by omega) hlen)]
    simpa [hsame] using fun _ => hopcode

theorem addressToScript_address_p2pkh : ∃ addr,
    addressToScript Sample.digest addr .mainnet = some (pubkeyhashToP2pkhScript Sample.keyHash) ↔
      Whole (pubkeyhashToP2pkhScript Sample.keyHash) :=
  ⟨_, addressToScript_address (rfl : parseNetworkType "mainnet" = some .mainnet)
    (getAddress_eq_ok_iff.mpr (.p2pkh Sample.keyHash rfl))⟩

/-- **From an address to its script and back**, but for capitals. -/
theorem address_addressToScript (h : addressToScript sha256d addr net = some script) :
    getAddressFromOutputScript sha256d script net =
      .ok (some (if isSegwitAddress addr net then addr.map lower else addr)) := by
  apply getAddress_eq_ok_iff.mpr
  cases hdecode : decodeSegwitAddress net.SEGWIT_HRP addr with
  | some p =>
    obtain ⟨witver, witprog⟩ := p
    obtain ⟨-, -, -, hprog⟩ := decodeSegwit_iff.mp hdecode
    have hleast := hprog.least
    have hmost := hprog.most
    have hsize : (UInt8.ofNat witprog.length).toNat = witprog.length :=
      UInt8.toNat_ofNat_of_lt' (show witprog.length < 2 ^ 8 by omega)
    rw [addressToScript_segwit hdecode] at h
    cases h
    have hsegwit : isSegwitAddress addr net = true := by
      unfold isSegwitAddress
      rw [hdecode]
      rfl
    rw [hsegwit, if_pos rfl]
    refine .witness witver _ _ _ hprog.version ?_ ?_ ?_
    · split
      · next hzero =>
        rcases hprog.zero hzero with hlen | hlen <;> rw [hlen] <;> decide
      · rw [hsize]
        exact ⟨hleast, hmost⟩
    · rw [List.length_map, hsize]
    · unfold hashToSegwitAddr
      rw [toNat_ofNat_map hprog.bytes, encode_decodeSegwit hdecode]
      rfl
  | none =>
    have hsegwit : isSegwitAddress addr net = false := by
      unfold isSegwitAddress
      rw [hdecode]
      rfl
    rw [hsegwit, if_neg (by decide)]
    unfold addressToScript at h
    rw [hdecode] at h
    split at h
    · cases h
    · obtain ⟨⟨addrtype, h160⟩, hpayload, h⟩ := Option.bind_eq_some_iff.mp h
      obtain ⟨hlen, haddr⟩ := b58AddressToHash160_eq_some_iff.mp hpayload
      dsimp only at h
      split at h
      · next htype =>
        cases h
        rw [← haddr, ← UInt8.ofNat_toNat (x := addrtype), htype]
        exact .p2pkh h160 hlen
      · split at h
        · next htype =>
          cases h
          rw [← haddr, ← UInt8.ofNat_toNat (x := addrtype), htype]
          exact .p2sh h160 hlen
        · cases h

theorem address_addressToScript_capitals : ∃ script,
    getAddressFromOutputScript Sample.digest script .mainnet =
      .ok (some (if isSegwitAddress "BC1QW508D6QEJXTDG4Y5R3ZARVARY0C5XW7KV8F3T4".toList .mainnet
        then "BC1QW508D6QEJXTDG4Y5R3ZARVARY0C5XW7KV8F3T4".toList.map lower
        else "BC1QW508D6QEJXTDG4Y5R3ZARVARY0C5XW7KV8F3T4".toList)) := by
  have hscript : (addressToScript Sample.digest "BC1QW508D6QEJXTDG4Y5R3ZARVARY0C5XW7KV8F3T4".toList
      .mainnet).isSome = true := by decide +kernel
  obtain ⟨script, hscript⟩ := Option.isSome_iff_exists.mp hscript
  exact ⟨script, address_addressToScript hscript⟩

/-- **The lockup address** of a swap is paid with the hash of its script. -/
theorem script_scriptToP2wsh (sha256d sha256 : Digest) (script : Bytes) (net : Net) :
    ∃ addr, scriptToP2wsh sha256 script net = .ok addr ∧
      addressToScript sha256d addr net = some (0x00 :: 32 :: sha256.hash script) ∧
      getAddressFromOutputScript sha256d (0x00 :: 32 :: sha256.hash script) net = .ok (some addr) := by
  have hlen := sha256.length_hash script
  have hprog : Program 0 ((sha256.hash script).map UInt8.toNat) := by
    refine ⟨by decide, fun v hv => ?_, ?_, ?_, fun _ => .inr ?_⟩
    · obtain ⟨b, -, rfl⟩ := List.mem_map.mp hv
      exact b.toNat_lt
    all_goals rw [List.length_map, hlen]
    all_goals decide
  obtain ⟨addr, hencode⟩ := encodeSegwit_ok (prefixes_net net) (by cases net <;> decide) hprog
  have haddr : scriptToP2wsh sha256 script net = .ok addr := by
    unfold scriptToP2wsh hashToSegwitAddr
    rw [hencode]
    rfl
  have hscript := @addressToScript_segwit sha256d net addr _ _ (decode_hashToSegwitAddr (by decide) haddr)
  rw [ofNat_toNat_map, List.length_map, hlen] at hscript
  refine ⟨addr, haddr, hscript, getAddress_eq_ok_iff.mpr ?_⟩
  exact .witness 0 _ 32 addr (by decide) (.inr rfl) (by rw [hlen]; decide) haddr

end RoundTrip

end SubswapProvider.Chain
