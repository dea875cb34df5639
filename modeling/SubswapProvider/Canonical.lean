import SubswapProvider.Bech32

/-!
# One text for each address

The way back of `Bech32.lean`: what `bech32_decode` and `convertbits` accept is what `bech32_encode` and
`convertbits` would have written, up to capitals (`encode_decode`, `convertbits_back`). So a text is
decided by what it stands for, and a text with one wrong character stands for nothing
(`decodeSegwitAddress_mistyped`).
-/

namespace SubswapProvider.Bech32

open Radix Checksum

/-! ## Words of 5 bits from bytes -/

/-- **What is taken for bytes is what the bytes are written as.** -/
theorem convertbits_back {words data : List Nat} (hwords : ∀ v ∈ words, v < 32)
    (h : convertbits words 5 8 false = some data) :
    (∀ v ∈ data, v < 256) ∧ convertbits data 8 5 true = some words := by
  obtain ⟨acc, bits, ret, hrun, hbits, hloop, hret⟩ :=
    convertLoop_start (f := 5) (t := 8) (by decide) (by decide) hwords
  unfold convertbits at h
  rw [hrun] at h
  dsimp only at h
  rw [if_neg (by decide), last_eq hbits] at h
  split at h
  · cases h
  · next hleft =>
    cases h
    obtain ⟨hfew, hzero⟩ := not_or.mp hleft
    have hrest : acc % 2 ^ bits = 0 := by
      have hpos : 0 < 2 ^ (8 - bits) := Nat.two_pow_pos _
      rcases Nat.mul_eq_zero.mp (not_not.mp hzero) with hrest | hpow
      · exact hrest
      · omega
    rw [hrest] at hloop
    obtain ⟨out, p, hout, hp, hpad, houtlt⟩ :=
      convertbits_pad (f := 8) (t := 5) (by decide) (by decide) hret
    refine ⟨hret, ?_⟩
    rw [hout]
    have hleq := hloop.length_eq
    have hpeq := hpad.length_eq
    have hsame : bits = p := by omega
    subst hsame
    refine congrArg some (value_inj (by decide) (by omega) houtlt hwords ?_)
    rw [hpad.value_eq, hloop.value_eq]

/-! ## Characters -/

theorem charset_forth : ∀ c ∈ CHARSET, ∃ d < 32, charsetInverse c = some d ∧ charAt d = .ok c := by
  have hall : CHARSET.all (fun c => (charsetInverse c).any fun d => decide (d < 32) &&
      (match charAt d with | .ok c' => decide (c' = c) | .error _ => false)) = true := by
    decide +kernel
  intro c hc
  have hany := List.all_eq_true.mp hall c hc
  rw [Option.any_eq_true] at hany
  obtain ⟨d, hd, hboth⟩ := hany
  obtain ⟨hlt, hchar⟩ := Bool.and_eq_true_iff.mp hboth
  refine ⟨d, of_decide_eq_true hlt, hd, ?_⟩
  split at hchar
  · next hok =>
    rw [hok, of_decide_eq_true hchar]
  · cases hchar

theorem mem_charset {c : Char} {d : Nat} (h : charsetInverse c = some d) : c ∈ CHARSET := by
  unfold charsetInverse at h
  by_contra hmem
  rw [List.idxOf?_eq_none_iff.mpr hmem] at h
  cases h

/-- Characters that stand for words are the ones that are written for them. -/
theorem mapM_charsetInverse {chars : Text} {data : List Nat} (h : chars.mapM charsetInverse = some data) :
    data.mapM charAt = .ok chars ∧ (∀ v ∈ data, v < 32) ∧ data.length = chars.length ∧ '1' ∉ chars := by
  induction chars generalizing data with
  | nil =>
    have hnil : data = [] := (Option.some.inj h).symm
    subst hnil
    exact ⟨rfl, by simp, rfl, by simp⟩
  | cons c chars ih =>
    rw [List.mapM_cons] at h
    obtain ⟨d, hd, hrest⟩ := Option.bind_eq_some_iff.mp h
    obtain ⟨rest, hchars, heq⟩ := Option.bind_eq_some_iff.mp hrest
    cases heq
    obtain ⟨hback, hlt, hlen, hone⟩ := ih hchars
    have hc := mem_charset hd
    obtain ⟨d', hd', hinv, hchar⟩ := charset_forth c hc
    rw [hd] at hinv
    cases hinv
    refine ⟨?_, ?_, ?_, ?_⟩
    · rw [List.mapM_cons, hchar, hback]
      rfl
    · intro v hv
      rcases List.mem_cons.mp hv with rfl | hv
      · exact hd'
      · exact hlt v hv
    · rw [List.length_cons, List.length_cons, hlen]
    · intro hmem
      rcases List.mem_cons.mp hmem with heq | hmem
      · exact (charset_plain c hc).1 heq.symm
      · exact hone hmem

/-- The last separator is where it has been found. -/
theorem rfind_some {c : Char} {s : Text} {pos : Nat} (h : rfind c s = some pos) :
    s = s.take pos ++ c :: s.drop (pos + 1) := by
  induction s generalizing pos with
  | nil => cases h
  | cons x xs ih =>
    unfold rfind at h
    split at h
    · next i hi =>
      cases h
      rw [List.take_succ_cons, List.drop_succ_cons, List.cons_append]
      exact congrArg (x :: ·) (ih hi)
    · split at h
      · next hx =>
        cases h
        rw [hx]
        rfl
      · cases h

/-! ## Checksums -/

theorem verify_eq {hrp : Text} {words : List Nat} {encoding : Encoding}
    (h : bech32VerifyChecksum hrp words = some encoding) :
    register.run 1 (bech32HrpExpand hrp ++ words) = encoding.const := by
  unfold bech32VerifyChecksum at h
  dsimp only at h
  split at h
  · next hconst =>
    cases h
    exact hconst
  · split at h
    · next hconst =>
      cases h
      exact hconst
    · cases h

/-- **A checksum that is verified is the one that would be created.** -/
theorem create_of_verify {hrp : Text} {data : List Nat} {encoding : Encoding}
    (hdata : ∀ v ∈ data, v < 32) (hlen : 6 ≤ data.length)
    (h : bech32VerifyChecksum hrp data = some encoding) :
    data = data.take (data.length - 6) ++
      bech32CreateChecksum encoding hrp (data.take (data.length - 6)) := by
  have hsplit := List.take_append_drop (data.length - 6) data
  have hsix : (data.drop (data.length - 6)).length = 6 := by
    rw [List.length_drop]
    omega
  have hrun : register.run (register.run 1 (bech32HrpExpand hrp ++ data.take (data.length - 6)))
      (data.drop (data.length - 6)) = encoding.const := by
    rw [← register.run_append, List.append_assoc, hsplit]
    exact verify_eq h
  have hseal := register.seal_unique (by decide) (by rw [hsix]; decide)
    (fun v hv => hdata v (List.mem_of_mem_drop hv)) hrun
  rw [hsix] at hseal
  rw [createChecksum_eq, ← hseal, hsplit]

/-! ## Texts -/

/-- What `bech32_decode` has found in a text: the separator at `pos`, and the words behind it. -/
structure Found (bech hrp : Text) (words : List Nat) (encoding : Encoding) (pos : Nat) : Prop where
  separated : rfind '1' bech = some pos
  nonempty : 0 < pos
  enough : pos + 7 ≤ bech.length
  printable : ∀ c ∈ bech.take (pos + 1), 33 ≤ c.toNat ∧ c.toNat ≤ 126
  hrp_eq : hrp = (bech.map lower).take pos
  read : ((bech.map lower).drop (pos + 1)).mapM charsetInverse = some words
  verified : bech32VerifyChecksum hrp words = some encoding

theorem found_of_decode {bech hrp : Text} {data : List Nat} {encoding : Encoding} {long : Bool}
    (h : bech32Decode bech long = some (encoding, hrp, data)) :
    ∃ words pos, Found bech hrp words encoding pos ∧ data = words.take (words.length - 6) ∧
      (long = false → bech.length ≤ 90) := by
  unfold bech32Decode at h
  dsimp only at h
  split at h
  · cases h
  obtain ⟨pos, hpos, h⟩ := Option.bind_eq_some_iff.mp h
  split at h
  · cases h
  next hlengths =>
  split at h
  · cases h
  next hsane =>
  obtain ⟨words, hwords, h⟩ := Option.bind_eq_some_iff.mp h
  obtain ⟨enc, hverify, h⟩ := Option.bind_eq_some_iff.mp h
  cases h
  obtain ⟨hfirst, hrest⟩ := not_or.mp hlengths
  obtain ⟨hlong, hninety⟩ := not_or.mp hrest
  refine ⟨words, pos, ⟨hpos, by omega, by omega, ?_, rfl, hwords, hverify⟩, rfl, ?_⟩
  · intro c hc
    by_contra hbad
    apply hsane
    rw [List.any_eq_true]
    refine ⟨c, hc, ?_⟩
    simp only [Bool.or_eq_true, decide_eq_true_eq]
    omega
  · intro hfalse
    simp only [hfalse, Bool.not_false, true_and] at hninety
    omega

/-- The text in small letters, cut at the separator. -/
theorem Found.lower_eq {bech hrp : Text} {words : List Nat} {encoding : Encoding} {pos : Nat}
    (h : Found bech hrp words encoding pos) :
    bech.map lower = hrp ++ '1' :: (bech.map lower).drop (pos + 1) := by
  have hone : lower '1' = '1' := by decide
  have hmap := congrArg (List.map lower) (rfind_some h.separated)
  rw [List.map_append, List.map_cons, hone, List.map_take, List.map_drop, ← h.hrp_eq] at hmap
  exact hmap

theorem Found.hrp_length {bech hrp : Text} {words : List Nat} {encoding : Encoding} {pos : Nat}
    (h : Found bech hrp words encoding pos) : hrp.length = pos := by
  have := h.enough
  rw [h.hrp_eq, List.length_take, List.length_map]
  omega

/-- **What is decoded is written again**, in small letters. -/
theorem encode_decode {bech hrp : Text} {data : List Nat} {encoding : Encoding} {long : Bool}
    (h : bech32Decode bech long = some (encoding, hrp, data)) :
    (∀ v ∈ data, v < 32) ∧ bech32Encode encoding hrp data = .ok (bech.map lower) := by
  obtain ⟨words, pos, hfound, hdata, -⟩ := found_of_decode h
  obtain ⟨hchars, hlt, hlen, -⟩ := mapM_charsetInverse hfound.read
  have hsix : 6 ≤ words.length := by
    have := hfound.enough
    rw [hlen, List.length_drop, List.length_map]
    omega
  have hcheck := create_of_verify hlt hsix hfound.verified
  rw [← hdata] at hcheck
  constructor
  · intro v hv
    rw [hdata] at hv
    exact hlt v (List.mem_of_mem_take hv)
  · unfold bech32Encode
    dsimp only
    rw [← hcheck, hchars]
    exact congrArg Except.ok hfound.lower_eq.symm

theorem decode_short {bech : Text} (h : bech.length ≤ 90) :
    bech32Decode bech false = bech32Decode bech true := by
  unfold bech32Decode
  simp [Nat.not_lt.mpr h]

theorem encode_length {hrp bech : Text} {data : List Nat} {encoding : Encoding}
    (hdata : ∀ v ∈ data, v < 32) (h : bech32Encode encoding hrp data = .ok bech) :
    bech.length = hrp.length + data.length + 7 := by
  have hcombined : ∀ v ∈ data ++ bech32CreateChecksum encoding hrp data, v < 32 := by
    intro v hv
    rcases List.mem_append.mp hv with hv | hv
    · exact hdata v hv
    · exact createChecksum_lt v hv
  obtain ⟨chars, hchars, -, -, -, hlen⟩ := mapM_charAt hcombined
  unfold bech32Encode at h
  dsimp only at h
  rw [hchars] at h
  cases h
  rw [List.length_append, createChecksum_length] at hlen
  rw [List.length_append, List.length_cons, hlen]
  omega

/-- Small letters of printable characters. -/
theorem lower_printable {c : Char} (h : 33 ≤ c.toNat ∧ c.toNat ≤ 126) :
    lower (lower c) = lower c ∧ 33 ≤ (lower c).toNat ∧ (lower c).toNat ≤ 126 := by
  have hall : ∀ n < 127, 33 ≤ n → lower (lower (Char.ofNat n)) = lower (Char.ofNat n) ∧
      33 ≤ (lower (Char.ofNat n)).toNat ∧ (lower (Char.ofNat n)).toNat ≤ 126 := by decide +kernel
  have hc := hall c.toNat (by omega) h.1
  rw [Char.ofNat_toNat] at hc
  exact hc

theorem Found.prefixes {bech hrp : Text} {words : List Nat} {encoding : Encoding} {pos : Nat}
    (h : Found bech hrp words encoding pos) : Prefixes hrp := by
  have hchars : ∀ c ∈ hrp, ∃ c' ∈ bech.take (pos + 1), c = lower c' := by
    intro c hc
    rw [h.hrp_eq, ← List.map_take] at hc
    obtain ⟨c', hc', rfl⟩ := List.mem_map.mp hc
    exact ⟨c', List.take_subset_take_left bech (Nat.le_succ pos) hc', rfl⟩
  constructor
  · apply List.ne_nil_of_length_pos
    rw [h.hrp_length]
    exact h.nonempty
  · intro c hc
    obtain ⟨c', hc', rfl⟩ := hchars c hc
    exact (lower_printable (h.printable c' hc')).2
  · have hid : hrp.map lower = hrp.map id := by
      apply List.map_congr_left
      intro c hc
      obtain ⟨c', hc', rfl⟩ := hchars c hc
      exact (lower_printable (h.printable c' hc')).1
    rw [hid, List.map_id]

/-- Small letters are read as the text is. -/
theorem decode_lower {bech hrp : Text} {data : List Nat} {encoding : Encoding} {long : Bool}
    (h : bech32Decode bech long = some (encoding, hrp, data)) :
    bech32Decode (bech.map lower) long = some (encoding, hrp, data) := by
  obtain ⟨words, pos, hfound, -, hninety⟩ := found_of_decode h
  obtain ⟨hdata, hencode⟩ := encode_decode h
  obtain ⟨bech', hencode', hdecode⟩ := decode_encode hfound.prefixes hdata encoding
  rw [hencode] at hencode'
  cases hencode'
  cases long with
  | true => exact hdecode
  | false =>
    rw [decode_short (by rw [List.length_map]; exact hninety rfl)]
    exact hdecode

/-! ## Addresses -/

/-- A witness program that has an address. -/
structure Program (witver : Nat) (witprog : List Nat) : Prop where
  version : witver ≤ 16
  bytes : ∀ v ∈ witprog, v < 256
  least : 2 ≤ witprog.length
  most : witprog.length ≤ 40
  zero : witver = 0 → witprog.length = 20 ∨ witprog.length = 32

/-- `Encoding.BECH32 if witver == 0 else Encoding.BECH32M`. -/
def encodingOf (witver : Nat) : Encoding := if witver = 0 then .BECH32 else .BECH32M

theorem decodeSegwit_iff {hrp addr : Text} {witver : Nat} {witprog : List Nat} :
    decodeSegwitAddress hrp addr = some (witver, witprog) ↔
      ∃ data, bech32Decode addr false = some (encodingOf witver, hrp, witver :: data) ∧
        convertbits data 5 8 false = some witprog ∧ Program witver witprog := by
  constructor
  · intro h
    unfold decodeSegwitAddress at h
    split at h
    · cases h
    next encoding hrpgot data hdecode =>
    split at h
    · cases h
    next hhrp =>
    split at h
    · next decoded version hconv hhead =>
      split at h
      · cases h
      next hsize =>
      split at h
      · cases h
      next hversion =>
      split at h
      · cases h
      next hzero =>
      split at h
      · cases h
      next hencoding =>
      cases h
      have hdata : data = witver :: data.tail := (List.cons_head?_tail hhead).symm
      rw [not_not.mp hhrp, hdata] at hdecode
      have hwords := (encode_decode hdecode).1
      have hbytes := (convertbits_back (fun v hv => hwords v (List.mem_cons_of_mem _ hv)) hconv).1
      have hkind : encoding = encodingOf witver := by
        unfold encodingOf
        by_contra hne
        apply hencoding
        split at hne
        · next h0 => exact Or.inl ⟨h0, hne⟩
        · next h0 => exact Or.inr ⟨h0, hne⟩
      rw [hkind] at hdecode
      refine ⟨data.tail, hdecode, hconv, ?_⟩
      exact ⟨by omega, hbytes, by omega, by omega, fun h0 => by omega⟩
    · cases h
  · rintro ⟨data, hdecode, hconv, hprog⟩
    have hleast := hprog.least
    have hmost := hprog.most
    have hversion := hprog.version
    have hzero := hprog.zero
    unfold decodeSegwitAddress
    rw [hdecode]
    dsimp only
    rw [if_neg (by simp), List.tail_cons, hconv, List.head?_cons]
    dsimp only
    rw [if_neg (by omega), if_neg (by omega), if_neg (by omega), if_neg]
    unfold encodingOf
    split <;> simp_all

/-- **An address is read as the program it was written for.** -/
theorem decode_encodeSegwit {hrp addr : Text} {witver : Nat} {witprog : List Nat} (hhrp : Prefixes hrp)
    (hversion : witver < 32) (hbytes : ∀ v ∈ witprog, v < 256)
    (h : encodeSegwitAddress hrp witver witprog = .ok (some addr)) :
    decodeSegwitAddress hrp addr = some (witver, witprog) := by
  obtain ⟨words, hconv, hlt, -, hback⟩ := convertbits_roundtrip hbytes
  have hdata : ∀ v ∈ witver :: words, v < 32 := by
    intro v hv
    rcases List.mem_cons.mp hv with rfl | hv
    · exact hversion
    · exact hlt v hv
  obtain ⟨bech, hencode, hdecode⟩ := decode_encode hhrp hdata (encodingOf witver)
  unfold encodeSegwitAddress at h
  rw [hconv] at h
  change (bech32Encode (encodingOf witver) hrp (witver :: words)).bind _ = _ at h
  rw [hencode] at h
  change Except.ok (if decodeSegwitAddress hrp bech = none then none else some bech) = _ at h
  split at h
  · cases h
  next hsome =>
  cases h
  obtain ⟨⟨version, prog⟩, hprog⟩ := Option.ne_none_iff_exists'.mp hsome
  obtain ⟨data, hshort, hdecoded, hvalid⟩ := decodeSegwit_iff.mp hprog
  obtain ⟨-, -, -, -, hninety⟩ := found_of_decode hshort
  rw [decode_short (hninety rfl), hdecode] at hshort
  simp only [Option.some.injEq, Prod.mk.injEq, List.cons.injEq] at hshort
  obtain ⟨-, -, rfl, rfl⟩ := hshort
  rw [hback] at hdecoded
  cases hdecoded
  exact hprog

/-- `encode_segwit_address`, where the text it has written is read as the program. -/
theorem encodeSegwit_of_decode {hrp addr : Text} {witver : Nat} {words witprog : List Nat}
    (hconv : convertbits witprog 8 5 true = some words)
    (hencode : bech32Encode (encodingOf witver) hrp (witver :: words) = .ok addr)
    (h : decodeSegwitAddress hrp addr = some (witver, witprog)) :
    encodeSegwitAddress hrp witver witprog = .ok (some addr) := by
  unfold encodeSegwitAddress
  rw [hconv]
  change (bech32Encode (encodingOf witver) hrp (witver :: words)).bind _ = _
  rw [hencode]
  change Except.ok (if decodeSegwitAddress hrp addr = none then none else some addr) = _
  rw [h, if_neg (by simp)]

/-- **Every program has an address**, where the prefix is short. -/
theorem encodeSegwit_ok {hrp : Text} {witver : Nat} {witprog : List Nat} (hhrp : Prefixes hrp)
    (hshort : hrp.length ≤ 18) (h : Program witver witprog) :
    ∃ addr, encodeSegwitAddress hrp witver witprog = .ok (some addr) := by
  obtain ⟨words, hconv, hlt, hlen, hback⟩ := convertbits_roundtrip h.bytes
  have hdata : ∀ v ∈ witver :: words, v < 32 := by
    intro v hv
    rcases List.mem_cons.mp hv with rfl | hv
    · exact lt_of_le_of_lt h.version (by decide)
    · exact hlt v hv
  obtain ⟨bech, hencode, hdecode⟩ := decode_encode hhrp hdata (encodingOf witver)
  have hninety : bech.length ≤ 90 := by
    have hmost := h.most
    have hbech := encode_length hdata hencode
    rw [List.length_cons, hlen] at hbech
    omega
  refine ⟨bech, encodeSegwit_of_decode hconv hencode (decodeSegwit_iff.mpr ⟨words, ?_, hback, h⟩)⟩
  rw [decode_short hninety]
  exact hdecode

/-- **A text that is read as a program is its address**, up to capitals. -/
theorem encode_decodeSegwit {hrp addr : Text} {witver : Nat} {witprog : List Nat}
    (h : decodeSegwitAddress hrp addr = some (witver, witprog)) :
    encodeSegwitAddress hrp witver witprog = .ok (some (addr.map lower)) := by
  obtain ⟨data, hdecode, hconv, hprog⟩ := decodeSegwit_iff.mp h
  obtain ⟨hwords, hencode⟩ := encode_decode hdecode
  obtain ⟨-, hback⟩ := convertbits_back (fun v hv => hwords v (List.mem_cons_of_mem _ hv)) hconv
  apply encodeSegwit_of_decode hback hencode
  apply decodeSegwit_iff.mpr
  exact ⟨data, decode_lower hdecode, hconv, hprog⟩

/-! ## One wrong character -/

/-- One wrong word brings the register from no checksum to another one. -/
theorem wrong_word {e n : Nat} (he : 0 < e) (hlt : e < 32) (hn : n ≤ 90) (enc enc' : Encoding) :
    register.run 0 (e :: List.replicate n 0) ≠ enc.const ^^^ enc'.const := by
  have hall : ((List.range 31).all fun i =>
      register.track (fun chk => chk != 0 && chk != 0x2bc830a2) 90 (register.step 0 (i + 1))) = true := by
    decide +kernel
  have htrack := List.all_eq_true.mp hall (e - 1) (List.mem_range.mpr (by omega))
  rw [Nat.sub_add_cancel he] at htrack
  have hok := register.ok_of_track htrack hn
  rw [Checksum.Register.run_cons]
  intro heq
  rw [heq] at hok
  cases enc <;> cases enc' <;> exact absurd hok (by decide)

theorem charsetInverse_inj {c c' : Char} {d : Nat} (h : charsetInverse c = some d)
    (h' : charsetInverse c' = some d) : c = c' := by
  obtain ⟨e, -, he, hchar⟩ := charset_forth c (mem_charset h)
  obtain ⟨e', -, he', hchar'⟩ := charset_forth c' (mem_charset h')
  rw [h] at he
  rw [h'] at he'
  cases he
  cases he'
  rw [hchar] at hchar'
  exact Except.ok.inj hchar'

/-- Another character stands for another word, and the words around it stay. -/
theorem words_set {chars : Text} {words words' : List Nat} {j : Nat} {c : Char}
    (h : chars.mapM charsetInverse = some words) (h' : (chars.set j c).mapM charsetInverse = some words')
    (hj : j < chars.length) (hc : chars[j]? ≠ some c) :
    ∃ pre v w post, words = pre ++ v :: post ∧ words' = pre ++ w :: post ∧ v ≠ w ∧
      post.length ≤ chars.length := by
  induction chars generalizing j words words' with
  | nil => exact absurd hj (Nat.not_lt_zero j)
  | cons a chars ih =>
    rw [List.mapM_cons] at h
    obtain ⟨d, hd, hrest⟩ := Option.bind_eq_some_iff.mp h
    obtain ⟨rest, hchars, heq⟩ := Option.bind_eq_some_iff.mp hrest
    cases heq
    cases j with
    | zero =>
      rw [List.set_cons_zero, List.mapM_cons, hchars] at h'
      obtain ⟨d', hd', heq'⟩ := Option.bind_eq_some_iff.mp h'
      cases heq'
      refine ⟨[], d, d', rest, rfl, rfl, ?_, ?_⟩
      · rintro rfl
        apply hc
        rw [List.getElem?_cons_zero, charsetInverse_inj hd hd']
      · rw [(mapM_charsetInverse hchars).2.2.1, List.length_cons]
        exact Nat.le_succ _
    | succ j =>
      rw [List.set_cons_succ, List.mapM_cons] at h'
      obtain ⟨d', hd', h'⟩ := Option.bind_eq_some_iff.mp h'
      rw [hd] at hd'
      cases hd'
      obtain ⟨rest', hrest', heq'⟩ := Option.bind_eq_some_iff.mp h'
      cases heq'
      obtain ⟨pre, v, w, post, hpre, hpre', hne, hpost⟩ :=
        ih hchars hrest' (Nat.lt_of_succ_lt_succ hj) hc
      refine ⟨d :: pre, v, w, post, ?_, ?_, hne, Nat.le_succ_of_le hpost⟩
      · rw [hpre, List.cons_append]
      · rw [hpre', List.cons_append]

theorem getElem?_front {hrp : Text} {i : Nat} (h : i ≤ hrp.length) (a b : Text) :
    (hrp ++ '1' :: a)[i]? = (hrp ++ '1' :: b)[i]? := by
  rw [List.getElem?_append, List.getElem?_append]
  split
  · rfl
  · rw [Nat.sub_eq_zero_of_le h]
    rfl

/-- **A text with one wrong character is no address.** -/
theorem decodeSegwitAddress_mistyped {hrp addr : Text} {r : Nat × List Nat} {i : Nat} {c : Char}
    (h : decodeSegwitAddress hrp addr = some r) (hi : i < addr.length)
    (hc : lower (addr.getD i c) ≠ lower c) : decodeSegwitAddress hrp (addr.set i c) = none := by
  obtain ⟨data, hdecode, -⟩ := decodeSegwit_iff.mp (h : _ = some (r.1, r.2))
  obtain ⟨words, pos, hfound, -, hninety⟩ := found_of_decode hdecode
  by_contra hsome
  obtain ⟨r', h'⟩ := Option.ne_none_iff_exists'.mp hsome
  obtain ⟨data', hdecode', -⟩ := decodeSegwit_iff.mp (h' : _ = some (r'.1, r'.2))
  obtain ⟨words', pos', hfound', -, -⟩ := found_of_decode hdecode'
  have hpos : pos' = pos := by rw [← hfound.hrp_length, ← hfound'.hrp_length]
  subst hpos
  have hlower := hfound.lower_eq
  have hlower' := hfound'.lower_eq
  have hread := hfound.read
  have hread' := hfound'.read
  rw [List.map_set] at hlower' hread'
  have hchar : (addr.map lower)[i]? ≠ some (lower c) := by
    rw [List.getElem?_map, List.getElem?_eq_getElem hi]
    rw [List.getD_eq_getElem addr c hi] at hc
    simpa using hc
  have hbehind : pos' + 1 ≤ i := by
    by_contra hbefore
    apply hchar
    have hlen := hfound.hrp_length
    have hget := congrArg (·[i]?) hlower'
    rw [List.getElem?_set_self (by rw [List.length_map]; exact hi)] at hget
    rw [hlower, hget]
    exact getElem?_front (by omega) _ _
  rw [List.drop_set, if_neg (by omega)] at hread'
  obtain ⟨pre, v, w, post, hwords, hwords', hne, hpost⟩ := words_set hread hread'
    (by rw [List.length_drop, List.length_map]; omega)
    (by rw [List.getElem?_drop, Nat.add_sub_cancel' hbehind]; exact hchar)
  have hlt := (mapM_charsetInverse hread).2.1
  have hlt' := (mapM_charsetInverse hread').2.1
  rw [hwords] at hlt
  rw [hwords'] at hlt'
  have hv : v < 32 := hlt v (List.mem_append_right _ List.mem_cons_self)
  have hw : w < 32 := hlt' w (List.mem_append_right _ List.mem_cons_self)
  have hsum := verify_eq hfound.verified
  have hsum' := verify_eq hfound'.verified
  rw [hwords, ← List.append_assoc] at hsum
  rw [hwords', ← List.append_assoc, register.run_change 1 v w, hsum] at hsum'
  refine wrong_word (e := v ^^^ w) (n := post.length) (Nat.pos_of_ne_zero ?_)
    (Nat.xor_lt_two_pow (n := 5) hv hw) ?_ (encodingOf r.1) (encodingOf r'.1) ?_
  · intro hzero
    exact hne (Nat.xor_eq_zero_iff.mp hzero)
  · have := hninety rfl
    rw [List.length_drop, List.length_map] at hpost
    omega
  · rw [← hsum', ← Nat.xor_assoc, Nat.xor_self, Nat.zero_xor]

theorem decodeSegwitAddress_mistyped_sample :
    decodeSegwitAddress "bc".toList
      ("bc1qw508d6qejxtdg4y5r3zarvary0c5xw7kv8f3t4".toList.set 20 'p') = none := by
  apply decodeSegwitAddress_mistyped (r := (0, [0x75, 0x1e, 0x76, 0xe8, 0x19, 0x91, 0x96, 0xd4, 0x54,
    0x94, 0x1c, 0x45, 0xd1, 0xb3, 0xa3, 0x23, 0xf1, 0x43, 0x3b, 0xd6]))
  · decide +kernel
  · decide
  · decide

end SubswapProvider.Bech32
