import SubswapProvider.Library.Rebase
import SubswapProvider.Bech32
import SubswapProvider.Bitcoin

/-!
# Base 58

`bitcoin.py`: bytes as a number in base 58 or 43, with a character for each zero byte in front, and the
check bytes of an address. A text is decoded to some bytes if and only if they are encoded as this text
(`baseDecode_eq_some_iff`), with the check bytes (`decodeBase58Check_eq_some_iff`) and as an address
(`b58AddressToHash160_eq_some_iff`): every address has one text only.

An exception is no result.
-/

namespace SubswapProvider.Base58

open Radix

/-- The digits of a base. -/
structure Alphabet where
  chars : Text
  nodup : chars.Nodup
  two : 1 < chars.length

namespace Alphabet

def base (α : Alphabet) : Nat := α.chars.length

/-- `chars[d:d + 1]`. -/
def char (α : Alphabet) (d : Nat) : Char := α.chars.getD d ' '

/-- `chars_inv[char]`. -/
def digit (α : Alphabet) (c : Char) : Option Nat := α.chars.idxOf? c

end Alphabet

/-- `__b58chars`. -/
def b58chars : Alphabet where
  chars := "123456789ABCDEFGHJKLMNPQRSTUVWXYZabcdefghijkmnopqrstuvwxyz".toList
  nodup := by decide +kernel
  two := by decide +kernel

/-- `__b43chars`. -/
def b43chars : Alphabet where
  chars := "0123456789ABCDEFGHIJKLMNOPQRSTUVWXYZ$*+-./:".toList
  nodup := by decide +kernel
  two := by decide +kernel

/-- `int.from_bytes(v, byteorder='big')`. -/
def fromBytesBE (v : Bytes) : Nat := value 256 (v.map UInt8.toNat)

/-- `n.to_bytes(len, 'big')`. -/
def toBytesBE (n len : Nat) : Bytes := (toBytesLE n len).reverse

/-- `base_encode`. The loop over `divmod` gives the digits of the number. -/
def baseEncode (α : Alphabet) (v : Bytes) : Text :=
  let rest := v.dropWhile (· = 0)
  let num := fromBytesBE rest
  List.replicate (v.length - rest.length) (α.char 0) ++ (digits α.base num).map α.char

/-- `base_decode`. -/
def baseDecode (α : Alphabet) (v : Text) : Option Bytes :=
  let rest := v.dropWhile (· = α.char 0)
  (rest.mapM α.digit).map fun ds =>
    let num := ds.foldl (fun num d => num * α.base + d) 0
    toBytesBE num (v.length - rest.length + (num.size + 7) / 8)

/-! ## Characters -/

namespace Alphabet

variable {α : Alphabet} {c : Char} {d : Nat}

theorem digit_char (h : d < α.base) : α.digit (α.char d) = some d := by
  have hget : α.char d = α.chars[d] := by
    unfold char
    rw [List.getD_eq_getElem?_getD, List.getElem?_eq_getElem h, Option.getD_some]
  unfold digit
  rw [List.idxOf?_eq_some_iff]
  refine ⟨h, hget.symm, fun j hj heq => ?_⟩
  rw [hget] at heq
  have := (List.Nodup.getElem_inj_iff α.nodup).mp heq
  omega

theorem digit_eq_some (h : α.digit c = some d) : d < α.base ∧ α.char d = c := by
  unfold digit at h
  obtain ⟨hlt, hget, -⟩ := List.idxOf?_eq_some_iff.mp h
  refine ⟨hlt, ?_⟩
  unfold char
  rw [List.getD_eq_getElem?_getD, List.getElem?_eq_getElem hlt, Option.getD_some, hget]

theorem one_lt_base : 1 < α.base := α.two

theorem base_pos : 0 < α.base := Nat.lt_trans Nat.zero_lt_one one_lt_base

/-- The texts of digits are the lists of characters that are digits. -/
theorem mapM_digit {t : Text} {ds : List Nat} :
    t.mapM α.digit = some ds ↔ ds.map α.char = t ∧ ∀ d ∈ ds, d < α.base := by
  induction t generalizing ds with
  | nil =>
    constructor
    · intro h
      cases h
      exact ⟨rfl, nofun⟩
    · rintro ⟨h, -⟩
      rw [List.map_eq_nil_iff.mp h]
      rfl
  | cons c t ih =>
    rw [List.mapM_cons]
    constructor
    · intro h
      obtain ⟨d, hd, h⟩ := Option.bind_eq_some_iff.mp h
      obtain ⟨rest, hrest, heq⟩ := Option.bind_eq_some_iff.mp h
      cases heq
      obtain ⟨hlt, hchar⟩ := digit_eq_some hd
      obtain ⟨htext, hall⟩ := ih.mp hrest
      exact ⟨by rw [List.map_cons, hchar, htext], List.forall_mem_cons.mpr ⟨hlt, hall⟩⟩
    · rintro ⟨htext, hall⟩
      cases ds with
      | nil => cases htext
      | cons d rest =>
        obtain ⟨hd, hrest⟩ := List.forall_mem_cons.mp hall
        rw [List.map_cons, List.cons.injEq] at htext
        obtain ⟨rfl, htext⟩ := htext
        rw [digit_char hd, ih.mpr ⟨htext, hrest⟩]
        rfl

end Alphabet

/-! ## Numbers -/

theorem toNat_ofNat_map {l : List Nat} (h : ∀ v ∈ l, v < 256) :
    (l.map UInt8.ofNat).map UInt8.toNat = l := by
  rw [List.map_map]
  refine (List.map_congr_left fun v hv => ?_).trans (List.map_id l)
  exact UInt8.toNat_ofNat_of_lt' (h v hv)

theorem ofNat_toNat_map (v : Bytes) : (v.map UInt8.toNat).map UInt8.ofNat = v := by
  rw [List.map_map]
  refine (List.map_congr_left fun b _ => ?_).trans (List.map_id v)
  exact UInt8.ofNat_toNat

/-- With room to spare the bytes of a number are its digits and zeros. -/
theorem toBytesLE_digits (k n : Nat) : toBytesLE n ((Nat.digits 256 n).length + k) =
    (Nat.digits 256 n).map UInt8.ofNat ++ List.replicate k 0 := by
  induction n using Nat.strongRecOn with
  | ind n ih =>
    by_cases hn : n = 0
    · subst hn
      have hzeros : ∀ k, toBytesLE 0 k = List.replicate k 0 := by
        intro k
        induction k with
        | zero => rfl
        | succ k ih => rw [toBytesLE, Nat.zero_div, ih]; rfl
      simpa using hzeros k
    · have hrest := ih (n / 256) (by omega)
      rw [Nat.digits_def' (by decide) (Nat.pos_of_ne_zero hn), List.length_cons, Nat.add_right_comm,
        toBytesLE, hrest]
      rfl

/-- `(num.bit_length() + 7) // 8`. -/
theorem length_digits_size (n : Nat) : (Nat.digits 256 n).length = (n.size + 7) / 8 := by
  by_cases hn : n = 0
  · subst hn
    rfl
  · have hpow : ∀ k, 256 ^ k = 2 ^ (8 * k) := fun k => by rw [Nat.pow_mul]
    have hlen := Nat.length_digits 256 n (by decide) hn
    have hlow := Nat.pow_log_le_self 256 hn
    have hhigh := Nat.lt_pow_succ_log_self (b := 256) (by decide) n
    rw [hpow] at hlow hhigh
    have hlow := Nat.lt_size.mpr hlow
    have hhigh := Nat.size_le.mpr hhigh
    omega

theorem toBytesBE_digits (k n : Nat) : toBytesBE n (k + (n.size + 7) / 8) =
    (List.replicate k 0 ++ digits 256 n).map UInt8.ofNat := by
  unfold toBytesBE digits
  rw [← length_digits_size, Nat.add_comm, toBytesLE_digits, List.reverse_append, List.map_append,
    List.map_reverse, List.reverse_replicate, List.map_replicate]
  rfl

/-! ## Texts and bytes -/

variable {α : Alphabet}

/-- What `lstrip` takes off. -/
theorem length_lstrip {β : Type} [DecidableEq β] (z : β) (l : List β) :
    l.length - (l.dropWhile (· = z)).length = (l.takeWhile (· = z)).length := by
  have := congrArg List.length (List.takeWhile_append_dropWhile (p := (· = z)) (l := l))
  rw [List.length_append] at this
  omega

theorem baseEncode_eq (v : Bytes) :
    baseEncode α v = (rebase 256 α.base (v.map UInt8.toNat)).map α.char := by
  have hzero : ((fun n : Nat => decide (n = 0)) ∘ UInt8.toNat) = fun b : UInt8 => decide (b = 0) := by
    funext b
    simp [← UInt8.toNat_inj]
  unfold baseEncode rebase fromBytesBE
  dsimp only
  rw [length_lstrip, List.takeWhile_map, List.dropWhile_map, hzero, List.length_map, List.map_append,
    List.map_replicate]

/-- Zeros in front of a text are zero digits. -/
theorem mapM_lstrip {t : Text} {ds : List Nat}
    (h : (t.dropWhile (· = α.char 0)).mapM α.digit = some ds) :
    t.mapM α.digit = some (List.replicate (t.takeWhile (· = α.char 0)).length 0 ++ ds) ∧ Headed ds := by
  obtain ⟨hrest, hlt⟩ := Alphabet.mapM_digit.mp h
  constructor
  · apply Alphabet.mapM_digit.mpr
    constructor
    · have hzeros : t.takeWhile (· = α.char 0) =
          List.replicate (t.takeWhile (· = α.char 0)).length (α.char 0) := by
        apply List.eq_replicate_iff.mpr
        refine ⟨rfl, fun c hc => ?_⟩
        simpa using List.all_eq_true.mp List.all_takeWhile c hc
      rw [List.map_append, List.map_replicate, hrest, ← hzeros, List.takeWhile_append_dropWhile]
    · intro d hd
      rcases List.mem_append.mp hd with hd | hd
      · rw [List.eq_of_mem_replicate hd]
        exact Alphabet.base_pos
      · exact hlt d hd
  · intro d hd hzero
    subst hzero
    have hhead := List.head?_dropWhile_not (fun c => decide (c = α.char 0)) t
    rw [← hrest, List.head?_map, Option.mem_def.mp hd] at hhead
    simp at hhead

theorem baseDecode_eq (t : Text) :
    baseDecode α t = (t.mapM α.digit).map fun ds => (rebase α.base 256 ds).map UInt8.ofNat := by
  unfold baseDecode
  dsimp only
  cases hrest : (t.dropWhile (· = α.char 0)).mapM α.digit with
  | some ds =>
    obtain ⟨htext, hhead⟩ := mapM_lstrip hrest
    obtain ⟨htake, hdrop⟩ := takeWhile_zeros (t.takeWhile (· = α.char 0)).length hhead
    have hnum : ds.foldl (fun num d => num * α.base + d) 0 = value α.base ds := by
      rw [← foldl_eq_value]
      simp only [Nat.mul_comm]
    rw [htext, Option.map_some, Option.map_some, hnum, length_lstrip, toBytesBE_digits]
    unfold rebase
    rw [htake, hdrop, List.length_replicate]
  | none =>
    cases htext : t.mapM α.digit with
    | none => rfl
    | some ds =>
      -- a part of a text of digits is one
      obtain ⟨hmap, hlt⟩ := Alphabet.mapM_digit.mp htext
      have hpart : (t.dropWhile (· = α.char 0)).mapM α.digit =
          some (ds.drop (t.takeWhile (· = α.char 0)).length) := by
        apply Alphabet.mapM_digit.mpr
        refine ⟨?_, fun d hd => hlt d (List.mem_of_mem_drop hd)⟩
        rw [List.map_drop, hmap]
        conv_lhs => rw [← List.takeWhile_append_dropWhile (p := (· = α.char 0)) (l := t)]
        rw [List.drop_append_of_le_length (by simp)]
        simp
      rw [hrest] at hpart
      cases hpart

/-- **A text stands for the bytes that are written as this text**, and for no others. -/
theorem baseDecode_eq_some_iff {t : Text} {v : Bytes} :
    baseDecode α t = some v ↔ baseEncode α v = t := by
  rw [baseDecode_eq, baseEncode_eq]
  constructor
  · intro h
    obtain ⟨ds, hds, rfl⟩ := Option.map_eq_some_iff.mp h
    obtain ⟨htext, hlt⟩ := Alphabet.mapM_digit.mp hds
    rw [toNat_ofNat_map fun v hv => rebase_lt (by decide) hv, rebase_rebase Alphabet.one_lt_base hlt, htext]
  · intro h
    have hds : t.mapM α.digit = some (rebase 256 α.base (v.map UInt8.toNat)) :=
      Alphabet.mapM_digit.mpr ⟨h, fun d hd => rebase_lt Alphabet.one_lt_base hd⟩
    have hbytes : ∀ d ∈ v.map UInt8.toNat, d < 256 := by
      intro d hd
      obtain ⟨b, -, rfl⟩ := List.mem_map.mp hd
      exact b.toNat_lt
    rw [hds, Option.map_some, rebase_rebase (by decide) hbytes, ofNat_toNat_map]

/-! ## Check bytes -/

/-- A hash function of 32 bytes. -/
structure Digest where
  hash : Bytes → Bytes
  length_hash : ∀ b, (hash b).length = 32

variable {sha256d : Digest}

/-- `EncodeBase58Check`. -/
def encodeBase58Check (sha256d : Digest) (vchIn : Bytes) : Text :=
  baseEncode b58chars (vchIn ++ (sha256d.hash vchIn).take 4)

/-- `DecodeBase58Check`. -/
def decodeBase58Check (sha256d : Digest) (psz : Text) : Option Bytes := do
  let vchRet ← baseDecode b58chars psz
  let payload := vchRet.take (vchRet.length - 4)
  let csum_found := vchRet.drop (vchRet.length - 4)
  let csum_calculated := (sha256d.hash payload).take 4
  if csum_calculated ≠ csum_found then none else some payload

theorem length_csum (b : Bytes) : ((sha256d.hash b).take 4).length = 4 := by
  rw [List.length_take, sha256d.length_hash]
  rfl

/-- **A text with check bytes** is the text of what it is decoded to. -/
theorem decodeBase58Check_eq_some_iff {psz : Text} {payload : Bytes} :
    decodeBase58Check sha256d psz = some payload ↔ encodeBase58Check sha256d payload = psz := by
  unfold decodeBase58Check encodeBase58Check
  constructor
  · intro h
    obtain ⟨vchRet, hdecode, h⟩ := Option.bind_eq_some_iff.mp h
    dsimp only at h
    split at h
    · cases h
    · next hcsum =>
      cases h
      rw [not_not.mp hcsum, List.take_append_drop]
      exact baseDecode_eq_some_iff.mp hdecode
  · intro h
    have hlen : (payload ++ (sha256d.hash payload).take 4).length - 4 = payload.length := by
      rw [List.length_append, length_csum, Nat.add_sub_cancel]
    rw [baseDecode_eq_some_iff.mpr h]
    show (if _ then _ else _) = _
    rw [hlen, List.take_left, List.drop_left, if_neg (not_not.mpr rfl)]

/-! ## Addresses -/

/-- `hash160_to_b58_address`. -/
def hash160ToB58Address (sha256d : Digest) (h160 : Bytes) (addrtype : UInt8) : Text :=
  let s := [addrtype] ++ h160
  baseEncode b58chars (s ++ (sha256d.hash s).take 4)

/-- `b58_address_to_hash160`. -/
def b58AddressToHash160 (sha256d : Digest) (addr : Text) : Option (UInt8 × Bytes) := do
  let bytes ← decodeBase58Check sha256d addr
  if bytes.length ≠ 21 then none
  else
    match bytes with
    | [] => none
    | addrtype :: h160 => some (addrtype, h160)

/-- **An address has one text**, and one payload. -/
theorem b58AddressToHash160_eq_some_iff {addr : Text} {addrtype : UInt8} {h160 : Bytes} :
    b58AddressToHash160 sha256d addr = some (addrtype, h160) ↔
      h160.length = 20 ∧ hash160ToB58Address sha256d h160 addrtype = addr := by
  have hencode : hash160ToB58Address sha256d h160 addrtype =
    encodeBase58Check sha256d (addrtype :: h160) := rfl
  rw [hencode, ← decodeBase58Check_eq_some_iff]
  unfold b58AddressToHash160
  constructor
  · intro h
    obtain ⟨bytes, hdecode, h⟩ := Option.bind_eq_some_iff.mp h
    split at h
    · cases h
    · next hlen =>
      cases bytes with
      | nil => cases h
      | cons t rest =>
        cases h
        rw [List.length_cons] at hlen
        exact ⟨by omega, hdecode⟩
  · rintro ⟨hlen, hdecode⟩
    rw [hdecode]
    show (if _ then _ else _) = _
    rw [List.length_cons, hlen, if_neg (by decide)]

end SubswapProvider.Base58
