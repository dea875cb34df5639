import SubswapProvider.Library.Checksum
import SubswapProvider.Invoices

/-!
# Bech32

`segwit_addr.py`: the text form of 5-bit words, and the change between words of 5 and of 8 bits. What
`bech32_encode` has written `bech32_decode` reads (`decode_encode`), and bytes cut into 5-bit words are
read back (`convertbits_roundtrip`).

Texts are lists of any characters. Of `str.lower` and `str.upper` only what can matter is modelled: the
letters of ASCII, and the kelvin sign, which is the one other character with a small letter of `CHARSET`. A
text with any other character is refused, whatever its letters are.
-/

namespace SubswapProvider

abbrev Text := List Char

namespace Bech32

open Radix Checksum

def CHARSET : Text := "qpzry9x8gf2tvdw0s3jn54khce6mua7l".toList

/-- `CHARSET[d]`. -/
def charAt (d : Nat) : Except PyErr Char :=
  match CHARSET[d]? with
  | some c => .ok c
  | none => .error .IndexError

/-- `CHARSET_INVERSE.get(c)`. -/
def charsetInverse (c : Char) : Option Nat := CHARSET.idxOf? c

inductive Encoding
  | BECH32
  | BECH32M
  deriving DecidableEq

/-- `BECH32_CONST` and `BECH32M_CONST`. -/
def Encoding.const : Encoding → Nat
  | .BECH32 => 1
  | .BECH32M => 0x2bc830a3

/-- The register of `bech32_polymod`: `top = chk >> 25`, `(chk & 0x1ffffff) << 5 ^ value`, and a
generator for each bit of `top`. -/
def register : Register where
  width := 5
  kept := 25
  generator := [0x3b6a57b2, 0x26508e6d, 0x1ea119fa, 0x3d4233dd, 0x2a1462b3]

/-- `bech32_polymod`. -/
def bech32Polymod (values : List Nat) : Nat := register.run 1 values

/-- `bech32_hrp_expand`. -/
def bech32HrpExpand (hrp : Text) : List Nat :=
  hrp.map (fun x => x.toNat >>> 5) ++ [0] ++ hrp.map (fun x => x.toNat &&& 31)

/-- `bech32_verify_checksum`. -/
def bech32VerifyChecksum (hrp : Text) (data : List Nat) : Option Encoding :=
  let check := bech32Polymod (bech32HrpExpand hrp ++ data)
  if check = Encoding.BECH32.const then some .BECH32
  else if check = Encoding.BECH32M.const then some .BECH32M
  else none

/-- `bech32_create_checksum`. -/
def bech32CreateChecksum (encoding : Encoding) (hrp : Text) (data : List Nat) : List Nat :=
  let values := bech32HrpExpand hrp ++ data
  let polymod := bech32Polymod (values ++ [0, 0, 0, 0, 0, 0]) ^^^ encoding.const
  (List.range 6).map fun i => (polymod >>> (5 * (5 - i))) &&& 31

/-- `bech32_encode`. -/
def bech32Encode (encoding : Encoding) (hrp : Text) (data : List Nat) : Except PyErr Text := do
  let combined := data ++ bech32CreateChecksum encoding hrp data
  let chars ← combined.mapM charAt
  pure (hrp ++ '1' :: chars)

/-- What `str.lower` makes of a character. -/
def lower (c : Char) : Char := if c = Char.ofNat 0x212a then 'k' else c.toLower

/-- What `str.upper` makes of a character; the kelvin sign is a capital. -/
def upper (c : Char) : Char := c.toUpper

/-- `s.rfind(c)`. -/
def rfind (c : Char) : Text → Option Nat
  | [] => none
  | x :: xs =>
    match rfind c xs with
    | some i => some (i + 1)
    | none => if x = c then some 0 else none

/-- `bech32_decode`. Where the source answers with three `None`s there is no answer here. -/
def bech32Decode (bech : Text) (ignore_long_length : Bool) : Option (Encoding × Text × List Nat) := do
  let bech_lower := bech.map lower
  if bech_lower ≠ bech ∧ bech.map upper ≠ bech then none
  let pos ← rfind '1' bech
  if pos < 1 ∨ bech.length < pos + 7 ∨ (!ignore_long_length ∧ 90 < bech.length) then none
  if (bech.take (pos + 1)).any (fun x => x.toNat < 33 || 126 < x.toNat) then none
  let hrp := bech_lower.take pos
  let data ← (bech_lower.drop (pos + 1)).mapM charsetInverse
  let encoding ← bech32VerifyChecksum hrp data
  some (encoding, hrp, data.take (data.length - 6))

/-! ## Between widths -/

/-- The inner loop of `convertbits`: words are given out as long as there are bits for one. -/
def giveWords (tobits acc : Nat) : Nat → Nat → List Nat × Nat
  | 0, bits => ([], bits)
  | fuel + 1, bits =>
    if tobits ≤ bits then
      let bits := bits - tobits
      let rest := giveWords tobits acc fuel bits
      (((acc >>> bits) &&& ((1 <<< tobits) - 1)) :: rest.1, rest.2)
    else ([], bits)

/-- The outer loop, from `acc`, `bits` and `ret`. -/
def convertLoop (frombits tobits : Nat) :
    List Nat → Nat → Nat → List Nat → Option (Nat × Nat × List Nat)
  | [], acc, bits, ret => some (acc, bits, ret)
  | value :: data, acc, bits, ret =>
    if value >>> frombits ≠ 0 then none
    else
      let acc := ((acc <<< frombits) ||| value) &&& ((1 <<< (frombits + tobits - 1)) - 1)
      let bits := bits + frombits
      -- a word takes a bit or more, so the loop does not run more than `bits` times
      let given := giveWords tobits acc bits bits
      convertLoop frombits tobits data acc given.2 (ret ++ given.1)

/-- `convertbits`. -/
def convertbits (data : List Nat) (frombits tobits : Nat) (pad : Bool) : Option (List Nat) :=
  match convertLoop frombits tobits data 0 0 [] with
  | none => none
  | some (acc, bits, ret) =>
    let last := (acc <<< (tobits - bits)) &&& ((1 <<< tobits) - 1)
    if pad then
      if bits ≠ 0 then some (ret ++ [last]) else some ret
    else if frombits ≤ bits ∨ last ≠ 0 then none
    else some ret

/-- `decode_segwit_address`. No data has no witness program either. -/
def decodeSegwitAddress (hrp addr : Text) : Option (Nat × List Nat) :=
  match bech32Decode addr false with
  | none => none
  | some (encoding, hrpgot, data) =>
    if hrpgot ≠ hrp then none
    else
      match convertbits data.tail 5 8 false, data.head? with
      | some decoded, some witver =>
        if decoded.length < 2 ∨ 40 < decoded.length then none
        else if 16 < witver then none
        else if witver = 0 ∧ decoded.length ≠ 20 ∧ decoded.length ≠ 32 then none
        else if (witver = 0 ∧ encoding ≠ .BECH32) ∨ (witver ≠ 0 ∧ encoding ≠ .BECH32M) then none
        else some (witver, decoded)
      | _, _ => none

/-- `encode_segwit_address`. -/
def encodeSegwitAddress (hrp : Text) (witver : Nat) (witprog : List Nat) :
    Except PyErr (Option Text) := do
  let encoding := if witver = 0 then Encoding.BECH32 else .BECH32M
  match convertbits witprog 8 5 true with
  | none => throw .TypeError
  | some data => do
    let ret ← bech32Encode encoding hrp (witver :: data)
    pure (if decodeSegwitAddress hrp ret = none then none else some ret)

section Widths

variable {f t : Nat}

theorem mask_eq (x n : Nat) : x &&& ((1 <<< n) - 1) = x % 2 ^ n := by
  rw [Nat.one_shiftLeft, Nat.and_two_pow_sub_one_eq_mod]

theorem giveWords_spec {l m : List Nat} {acc fuel bits : Nat} (ht : 0 < t) (hfuel : bits ≤ fuel)
    (h : Regrouped f t l m (acc % 2 ^ bits) bits) (hm : ∀ v ∈ m, v < 2 ^ t) :
    (giveWords t acc fuel bits).2 < t ∧
      Regrouped f t l (m ++ (giveWords t acc fuel bits).1)
        (acc % 2 ^ (giveWords t acc fuel bits).2) (giveWords t acc fuel bits).2 ∧
      ∀ v ∈ m ++ (giveWords t acc fuel bits).1, v < 2 ^ t := by
  induction fuel generalizing m bits with
  | zero =>
    have hzero : bits = 0 := by omega
    subst hzero
    simpa [giveWords, ht] using And.intro h hm
  | succ fuel ih =>
    unfold giveWords
    split
    · next hbits =>
      have hpow : 2 ^ bits = 2 ^ (bits - t) * 2 ^ t := by rw [← pow_add, Nat.sub_add_cancel hbits]
      have hword : (acc >>> (bits - t)) &&& ((1 <<< t) - 1) = acc % 2 ^ bits / 2 ^ (bits - t) := by
        rw [mask_eq, Nat.shiftRight_eq_div_pow, hpow, Nat.mod_mul_right_div_self]
      have hrest : acc % 2 ^ bits % 2 ^ (bits - t) = acc % 2 ^ (bits - t) := by
        apply Nat.mod_mod_of_dvd
        exact pow_dvd_pow 2 (Nat.sub_le bits t)
      have hnext := h.emit hbits
      rw [hrest, ← hword] at hnext
      have hlt := h.emit_lt hbits
      rw [← hword] at hlt
      have hwords : ∀ v ∈ m ++ [(acc >>> (bits - t)) &&& ((1 <<< t) - 1)], v < 2 ^ t := by
        intro v hv
        rcases List.mem_append.mp hv with hv | hv
        · exact hm v hv
        · rw [List.mem_singleton.mp hv]
          exact hlt
      have hgiven := ih (by omega) hnext hwords
      simpa [List.append_assoc] using hgiven
    · next hbits => simpa [Nat.lt_of_not_le hbits] using And.intro h hm

/-- What the loop keeps to: `acc` holds the bits that were not given out. -/
theorem convertLoop_spec {data l ret : List Nat} {acc bits : Nat} (hf : 0 < f) (ht : 0 < t)
    (hdata : ∀ v ∈ data, v < 2 ^ f) (h : Regrouped f t l ret (acc % 2 ^ bits) bits) (hbits : bits < t)
    (hret : ∀ v ∈ ret, v < 2 ^ t) :
    ∃ acc' bits' ret', convertLoop f t data acc bits ret = some (acc', bits', ret') ∧ bits' < t ∧
      Regrouped f t (l ++ data) ret' (acc' % 2 ^ bits') bits' ∧ ∀ v ∈ ret', v < 2 ^ t := by
  induction data generalizing l ret acc bits with
  | nil => exact ⟨acc, bits, ret, rfl, hbits, by simpa using h, hret⟩
  | cons v data ih =>
    have hv : v < 2 ^ f := hdata v List.mem_cons_self
    have hsmall : v >>> f = 0 := by
      rw [Nat.shiftRight_eq_div_pow]
      exact Nat.div_eq_of_lt hv
    unfold convertLoop
    rw [if_neg (by simpa using hsmall)]
    dsimp only
    generalize hacc : ((acc <<< f) ||| v) &&& ((1 <<< (f + t - 1)) - 1) = acc'
    -- the mask keeps more bits than were not given out
    have hkept : acc' % 2 ^ (bits + f) = acc % 2 ^ bits * 2 ^ f + v := by
      have hor : (acc <<< f) ||| v = acc * 2 ^ f + v := by
        rw [← Nat.shiftLeft_add_eq_or_of_lt hv, Nat.shiftLeft_eq]
      have hlow : (acc * 2 ^ f + v) % 2 ^ f = v := by
        rw [Nat.mul_add_mod', Nat.mod_eq_of_lt hv]
      have hhigh : (acc * 2 ^ f + v) / 2 ^ f = acc := by
        rw [Nat.mul_comm, Nat.mul_add_div (Nat.two_pow_pos f), Nat.div_eq_of_lt hv, Nat.add_zero]
      rw [← hacc, mask_eq, Nat.mod_mod_of_dvd _ (pow_dvd_pow 2 (by omega)), hor, pow_add,
        Nat.mul_comm (2 ^ bits), Nat.mod_mul, hlow, hhigh]
      ring
    have hpush := h.push hv
    rw [← hkept] at hpush
    obtain ⟨hlt, hnext, hwords⟩ := giveWords_spec ht (Nat.le_refl (bits + f)) hpush hret
    have hrun := ih (fun w hw => hdata w (List.mem_cons_of_mem v hw)) hnext hlt hwords
    simpa using hrun

/-- From the start. -/
theorem convertLoop_start {data : List Nat} (hf : 0 < f) (ht : 0 < t) (hdata : ∀ v ∈ data, v < 2 ^ f) :
    ∃ acc bits ret, convertLoop f t data 0 0 [] = some (acc, bits, ret) ∧ bits < t ∧
      Regrouped f t data ret (acc % 2 ^ bits) bits ∧ ∀ v ∈ ret, v < 2 ^ t :=
  convertLoop_spec (l := []) hf ht hdata (by simpa [Nat.mod_one] using Regrouped.nil) ht (by simp)

/-- The last word, where `bits` bits are left. -/
theorem last_eq {acc bits : Nat} (hbits : bits < t) :
    (acc <<< (t - bits)) &&& ((1 <<< t) - 1) = acc % 2 ^ bits * 2 ^ (t - bits) := by
  have hpow : 2 ^ t = 2 ^ bits * 2 ^ (t - bits) := by rw [← pow_add]; congr 1; omega
  rw [mask_eq, Nat.shiftLeft_eq, hpow, Nat.mul_mod_mul_right]

/-- With padding: the words hold the bits of `data`, and less than a word of zeros. -/
theorem convertbits_pad {data : List Nat} (hf : 0 < f) (ht : 0 < t) (hdata : ∀ v ∈ data, v < 2 ^ f) :
    ∃ out p, convertbits data f t true = some out ∧ p < t ∧ Regrouped t f out data 0 p ∧
      ∀ v ∈ out, v < 2 ^ t := by
  obtain ⟨acc, bits, ret, hrun, hbits, h, hret⟩ := convertLoop_start hf ht hdata
  unfold convertbits
  rw [hrun]
  dsimp only
  rw [if_pos rfl, last_eq hbits]
  by_cases hzero : bits = 0
  · subst hzero
    rw [Nat.pow_zero, Nat.mod_one] at h
    exact ⟨ret, 0, by simp, ht, h.swap, hret⟩
  · refine ⟨_, t - bits, if_pos hzero, by omega, h.pad (by omega), ?_⟩
    intro v hv
    rcases List.mem_append.mp hv with hv | hv
    · exact hret v hv
    · rw [List.mem_singleton.mp hv]
      calc acc % 2 ^ bits * 2 ^ (t - bits) < 2 ^ bits * 2 ^ (t - bits) :=
            Nat.mul_lt_mul_of_pos_right h.rest_lt (Nat.two_pow_pos _)
        _ = 2 ^ t := by rw [← pow_add]; congr 1; omega

/-- Without padding: words that hold the bits of `m`, and less than a word of zeros, give `m`. -/
theorem convertbits_exact {l m : List Nat} {p : Nat} (hf : 0 < f) (ht : 0 < t)
    (hl : ∀ v ∈ l, v < 2 ^ f) (hm : ∀ v ∈ m, v < 2 ^ t) (h : Regrouped f t l m 0 p) (hpf : p < f)
    (hpt : p < t) : convertbits l f t false = some m := by
  obtain ⟨acc, bits, ret, hrun, hbits, hloop, hret⟩ := convertLoop_start hf ht hl
  obtain ⟨heq, hrest, hleft⟩ := hloop.unique h hbits hpt hret hm
  subst heq hleft
  unfold convertbits
  rw [hrun]
  dsimp only
  rw [last_eq hbits, hrest]
  simp [hpf]

end Widths

/-- **Bytes cut into 5-bit words are read back.** -/
theorem convertbits_roundtrip {data : List Nat} (h : ∀ v ∈ data, v < 256) :
    ∃ words, convertbits data 8 5 true = some words ∧ (∀ v ∈ words, v < 32) ∧
      words.length = (8 * data.length + 4) / 5 ∧ convertbits words 5 8 false = some data := by
  obtain ⟨words, p, hrun, hp, hgroup, hlt⟩ := convertbits_pad (f := 8) (t := 5) (by decide) (by decide) h
  refine ⟨words, hrun, hlt, ?_, ?_⟩
  · have := hgroup.length_eq
    omega
  · exact convertbits_exact (by decide) (by decide) hlt h hgroup hp (by omega)

/-! ## Checksums -/

theorem createChecksum_eq (encoding : Encoding) (hrp : Text) (data : List Nat) :
    bech32CreateChecksum encoding hrp data =
      register.words (register.run (register.run 1 (bech32HrpExpand hrp ++ data))
        (List.replicate 6 0) ^^^ encoding.const) 6 := by
  have hrun : bech32Polymod (bech32HrpExpand hrp ++ data ++ [0, 0, 0, 0, 0, 0]) =
      register.run (register.run 1 (bech32HrpExpand hrp ++ data)) (List.replicate 6 0) :=
    register.run_append 1 _ _
  rw [← hrun]
  rfl

theorem createChecksum_lt {encoding : Encoding} {hrp : Text} {data : List Nat} :
    ∀ v ∈ bech32CreateChecksum encoding hrp data, v < 32 := by
  intro v hv
  rw [createChecksum_eq] at hv
  exact register.words_lt hv

@[simp] theorem createChecksum_length (encoding : Encoding) (hrp : Text) (data : List Nat) :
    (bech32CreateChecksum encoding hrp data).length = 6 := by simp [bech32CreateChecksum]

/-- **The checksum that is created is the one that is verified.** -/
theorem verify_create {hrp : Text} {data : List Nat} (hhrp : ∀ c ∈ hrp, c.toNat < 2 ^ 30)
    (hdata : ∀ v ∈ data, v < 32) (encoding : Encoding) :
    bech32VerifyChecksum hrp (data ++ bech32CreateChecksum encoding hrp data) = some encoding := by
  have hvalues : ∀ v ∈ bech32HrpExpand hrp ++ data, v < 2 ^ (register.kept + register.width) := by
    intro v hv
    rcases List.mem_append.mp hv with hv | hv
    · rcases List.mem_append.mp hv with hv | hv
      · rcases List.mem_append.mp hv with hv | hv
        · obtain ⟨c, hc, rfl⟩ := List.mem_map.mp hv
          rw [Nat.shiftRight_eq_div_pow]
          exact lt_of_le_of_lt (Nat.div_le_self _ _) (hhrp c hc)
        · rw [List.mem_singleton.mp hv]
          decide
      · obtain ⟨c, -, rfl⟩ := List.mem_map.mp hv
        exact lt_of_le_of_lt Nat.and_le_right (by decide)
    · exact lt_trans (hdata v hv) (by decide)
  have hgen : ∀ g ∈ register.generator, g < 2 ^ (register.kept + register.width) := by decide
  have hconst : encoding.const < 2 ^ (register.kept + register.width) := by cases encoding <;> decide
  have hseal : bech32Polymod (bech32HrpExpand hrp ++ (data ++ bech32CreateChecksum encoding hrp data)) =
      encoding.const := by
    unfold bech32Polymod
    rw [← List.append_assoc, register.run_append, createChecksum_eq]
    apply register.run_seal (by decide) hgen _ hconst
    exact register.run_lt hgen hvalues (by decide)
  unfold bech32VerifyChecksum
  rw [hseal]
  cases encoding <;> rfl

/-! ## Texts -/

theorem charset_get : ∀ d < 32, CHARSET[d]? = some (CHARSET.getD d '1') := by decide +kernel

theorem charset_back : ∀ d < 32, charsetInverse (CHARSET.getD d '1') = some d := by decide +kernel

theorem charset_plain : ∀ c ∈ CHARSET, c ≠ '1' ∧ lower c = c := by
  have hall : CHARSET.all (fun c => decide (c ≠ '1' ∧ lower c = c)) = true := by decide +kernel
  intro c hc
  exact of_decide_eq_true (List.all_eq_true.mp hall c hc)

theorem charAt_ok {d : Nat} (h : d < 32) : ∃ c, charAt d = .ok c ∧ charsetInverse c = some d ∧
    c ≠ '1' ∧ lower c = c := by
  have hget := charset_get d h
  refine ⟨CHARSET.getD d '1', ?_, charset_back d h, charset_plain _ (List.mem_of_getElem? hget)⟩
  unfold charAt
  rw [hget]

/-- Words below 32 have a text, which is read back and does not hold a `1`. -/
theorem mapM_charAt {data : List Nat} (h : ∀ v ∈ data, v < 32) :
    ∃ chars, data.mapM charAt = .ok chars ∧ chars.mapM charsetInverse = some data ∧ '1' ∉ chars ∧
      chars.map lower = chars ∧ chars.length = data.length := by
  induction data with
  | nil => exact ⟨[], rfl, rfl, by simp, rfl, rfl⟩
  | cons d data ih =>
    obtain ⟨c, hc, hinv, hone, hlower⟩ := charAt_ok (h d List.mem_cons_self)
    obtain ⟨chars, hrun, hback, hones, hlowers, hlen⟩ :=
      ih fun v hv => h v (List.mem_cons_of_mem d hv)
    refine ⟨c :: chars, ?_, ?_, ?_, ?_, ?_⟩
    · rw [List.mapM_cons, hc, hrun]
      rfl
    · rw [List.mapM_cons, hinv, hback]
      rfl
    · intro hmem
      rcases List.mem_cons.mp hmem with heq | hmem
      · exact hone heq.symm
      · exact hones hmem
    · rw [List.map_cons, hlower, hlowers]
    · rw [List.length_cons, List.length_cons, hlen]

theorem rfind_none {c : Char} {s : Text} (h : c ∉ s) : rfind c s = none := by
  induction s with
  | nil => rfl
  | cons x xs ih =>
    have hx : x ≠ c := fun heq => h (heq ▸ List.mem_cons_self)
    have hxs : c ∉ xs := fun hmem => h (List.mem_cons_of_mem x hmem)
    unfold rfind
    rw [ih hxs]
    exact if_neg hx

/-- The last separator. -/
theorem rfind_append {c : Char} {s t : Text} (h : c ∉ t) : rfind c (s ++ c :: t) = some s.length := by
  induction s with
  | nil =>
    rw [List.nil_append]
    unfold rfind
    rw [rfind_none h]
    exact if_pos rfl
  | cons x xs ih =>
    rw [List.cons_append]
    unfold rfind
    rw [ih]
    rfl

/-- A prefix that `bech32_decode` takes: not empty, printable and without capitals. -/
structure Prefixes (hrp : Text) : Prop where
  ne_nil : hrp ≠ []
  printable : ∀ c ∈ hrp, 33 ≤ c.toNat ∧ c.toNat ≤ 126
  lower : hrp.map lower = hrp

/-- **The round trip of bech32.** -/
theorem decode_encode {hrp : Text} {data : List Nat} (hhrp : Prefixes hrp) (hdata : ∀ v ∈ data, v < 32)
    (encoding : Encoding) : ∃ bech, bech32Encode encoding hrp data = .ok bech ∧
      bech32Decode bech true = some (encoding, hrp, data) := by
  have hcombined : ∀ v ∈ data ++ bech32CreateChecksum encoding hrp data, v < 32 := by
    intro v hv
    rcases List.mem_append.mp hv with hv | hv
    · exact hdata v hv
    · exact createChecksum_lt v hv
  obtain ⟨chars, hchars, hback, hone, hlower, hlen⟩ := mapM_charAt hcombined
  refine ⟨hrp ++ '1' :: chars, ?_, ?_⟩
  · unfold bech32Encode
    dsimp only
    rw [hchars]
    rfl
  have hlowers : (hrp ++ '1' :: chars).map lower = hrp ++ '1' :: chars := by
    rw [List.map_append, List.map_cons, hhrp.lower, hlower]
    rfl
  have hpos : 0 < hrp.length := List.length_pos_of_ne_nil hhrp.ne_nil
  have hsix : 6 ≤ chars.length := by
    rw [hlen, List.length_append, createChecksum_length]
    omega
  have hsane : ((hrp ++ '1' :: chars).take (hrp.length + 1)).any
      (fun x => x.toNat < 33 || 126 < x.toNat) = false := by
    have htake : (hrp ++ '1' :: chars).take (hrp.length + 1) = hrp ++ ['1'] := by
      rw [List.take_append, List.take_of_length_le (by omega)]
      simp
    rw [htake, List.any_eq_false]
    intro x hx
    rcases List.mem_append.mp hx with hx | hx
    · have := hhrp.printable x hx
      simp only [Bool.or_eq_true, decide_eq_true_eq]
      omega
    · rw [List.mem_singleton.mp hx]
      decide
  have hdrop : (hrp ++ '1' :: chars).drop (hrp.length + 1) = chars := by
    rw [List.drop_append, List.drop_of_length_le (by omega)]
    simp
  have htake : (hrp ++ '1' :: chars).take hrp.length = hrp := List.take_left
  have hprintable : ∀ c ∈ hrp, c.toNat < 2 ^ 30 := by
    intro c hc
    have := hhrp.printable c hc
    omega
  have hshort : ¬ (hrp.length < 1 ∨ (hrp ++ '1' :: chars).length < hrp.length + 7 ∨
      ((!true) = true ∧ 90 < (hrp ++ '1' :: chars).length)) := by
    rw [List.length_append, List.length_cons]
    simp only [Bool.not_true, Bool.false_eq_true, false_and, or_false]
    omega
  unfold bech32Decode
  simp only [hlowers, rfind_append hone, ne_eq, not_true_eq_false, false_and, if_false, Option.bind_eq_bind,
    Option.bind_some]
  rw [if_neg hshort, hsane, htake, hdrop, hback]
  simp [verify_create hprintable hdata encoding]

end Bech32

end SubswapProvider
