import SubswapProvider.FixedWidth

/-!
# The round trip of an invoice

What `lnencode_unsigned` writes for an invoice of the plugin, with the signature lightningd puts in,
is read back by `lndecode`: the amount, the hash, the secret, the tags (`lndecode_signed`), and the
date, if it takes seven words (`readDate_iff`).

Each part of the words is read by one step of the loop of `lndecode` (`Reads`), so the tags are read
back one after the other, however many there are.
-/

namespace SubswapProvider.Bolt11

open Bech32 Radix

/-! ## Amounts -/

theorem truncate_natCast (n : Nat) : truncate n = n := by
  unfold truncate
  simp

theorem ofMsat_pico (amount_msat : Nat) : ofMsat amount_msat * 10 ^ 12 = ((amount_msat * 10 : Nat) : ℚ) := by
  unfold ofMsat
  push_cast
  ring

/-- The factor of a unit. -/
def factor : Option Char → Nat
  | none => 10 ^ 12
  | some unit => 10 ^ 12 / (unitOf unit).getD 1

theorem factor_mul {u : Char} {k : Nat} (h : unitOf u = some k) :
    k ≠ 0 ∧ factor (some u) * k = 10 ^ 12 := by
  unfold factor
  dsimp only
  rw [h, Option.getD_some]
  unfold unitOf at h
  split at h <;> first | (cases h; decide) | cases h

theorem shortenLoop_cons (k : Nat) (units : List Char) (u : Char) :
    shortenLoop (u :: units) (k : Int) =
      if k % 1000 = 0 then shortenLoop units ((k / 1000 : Nat) : Int) else ((k : Int), some u) := by
  have hmod : (k : Int) % 1000 = ((k % 1000 : Nat) : Int) := rfl
  have hdiv : (k : Int) / 1000 = ((k / 1000 : Nat) : Int) := rfl
  rw [shortenLoop.eq_def]
  dsimp only
  rw [hmod, hdiv]
  by_cases hk : k % 1000 = 0
  · rw [if_pos hk, if_pos (by exact_mod_cast hk)]
  · rw [if_neg hk, if_neg (by exact_mod_cast hk)]

/-- The loop takes out a thousand for each unit it passes. -/
theorem shortenLoop_spec (n : Nat) : ∃ (m : Nat) (unit : Option Char),
    shortenLoop ['p', 'n', 'u', 'm'] n = ((m : Int), unit) ∧ m * factor unit = n ∧ ∀ u ∈ unit, (unitOf u).isSome := by
  rw [shortenLoop_cons]
  split
  · next hp =>
    rw [shortenLoop_cons]
    split
    · next hn =>
      rw [shortenLoop_cons]
      split
      · next hu =>
        rw [shortenLoop_cons]
        split
        · next hm =>
          refine ⟨n / 1000 / 1000 / 1000 / 1000, none, rfl, ?_, by simp⟩
          show _ * 1000000000000 = n
          omega
        · refine ⟨n / 1000 / 1000 / 1000, some 'm', rfl, ?_, by simp [unitOf]⟩
          show _ * 1000000000 = n
          omega
      · refine ⟨n / 1000 / 1000, some 'u', rfl, ?_, by simp [unitOf]⟩
        show _ * 1000000 = n
        omega
    · refine ⟨n / 1000, some 'n', rfl, ?_, by simp [unitOf]⟩
      show _ * 1000 = n
      omega
  · exact ⟨n, some 'p', rfl, Nat.mul_one n, by simp [unitOf]⟩

theorem isDigit_toDigits (m : Nat) : ∀ c ∈ Nat.toDigits 10 m, c.isDigit = true := by
  intro c hc
  exact Nat.isDigit_of_mem_toDigits (by decide) (by decide) hc

theorem takeWhile_dropWhile_all {α : Type} {p : α → Bool} {l m : List α} (hl : ∀ a ∈ l, p a = true)
    (hm : ∀ a ∈ m.head?, p a = false) :
    (l ++ m).takeWhile p = l ∧ (l ++ m).dropWhile p = m := by
  induction l with
  | nil =>
    cases m with
    | nil => exact ⟨rfl, rfl⟩
    | cons a m =>
      have ha : p a = false := hm a rfl
      simp [ha]
  | cons a l ih =>
    have ha : p a = true := hl a List.mem_cons_self
    obtain ⟨htake, hdrop⟩ := ih fun b hb => hl b (List.mem_cons_of_mem a hb)
    simp [ha, htake, hdrop]

theorem isDigit_unit {u : Char} (h : (unitOf u).isSome) : u.isDigit = false := by
  unfold unitOf at h
  split at h <;> first | rfl | exact absurd h (by simp)

theorem isAmount_digits (m : Nat) (unit : Option Char) (h : ∀ u ∈ unit, (unitOf u).isSome) :
    isAmount (Nat.toDigits 10 m ++ unit.toList) = true := by
  have hhead : ∀ u ∈ unit.toList.head?, Char.isDigit u = false := by
    intro u hu
    cases unit with
    | none => cases hu
    | some v =>
      cases hu
      exact isDigit_unit (h _ rfl)
  obtain ⟨htake, hdrop⟩ := takeWhile_dropWhile_all (isDigit_toDigits m) hhead
  unfold isAmount
  rw [htake, hdrop]
  cases unit with
  | none => simp
  | some v => simpa using h v rfl

/-- **What has been shortened is unshortened.** -/
theorem unshorten_shorten (amount_msat : Nat) :
    unshortenAmount (shortenAmount (ofMsat amount_msat)) = .ok (ofMsat amount_msat) := by
  obtain ⟨m, unit, hloop, hfactor, hunit⟩ := shortenLoop_spec (amount_msat * 10)
  have htext : shortenAmount (ofMsat amount_msat) = Nat.toDigits 10 m ++ unit.toList := by
    unfold shortenAmount
    rw [ofMsat_pico, truncate_natCast, hloop]
    rfl
  have hisAmount := isAmount_digits m unit hunit
  have hvalue : ofMsat amount_msat = m * (factor unit : ℚ) / 10 ^ 12 := by
    have hcast : (m * factor unit : ℚ) = amount_msat * 10 := by exact_mod_cast hfactor
    rw [hcast]
    unfold ofMsat
    ring
  rw [htext]
  unfold unshortenAmount
  cases unit with
  | none =>
    have hlast : ∃ c, (Nat.toDigits 10 m).getLast? = some c ∧ c.isDigit = true := by
      have hne : Nat.toDigits 10 m ≠ [] := Nat.toDigits_ne_nil
      exact ⟨_, List.getLast?_eq_some_getLast hne, isDigit_toDigits m _ (List.getLast_mem hne)⟩
    obtain ⟨c, hc, hdigit⟩ := hlast
    have hnone : unitOf c = none := by
      cases hu : unitOf c with
      | none => rfl
      | some k =>
        have := isDigit_unit (u := c) (by rw [hu]; rfl)
        rw [hdigit] at this
        cases this
    rw [Option.toList_none, List.append_nil] at hisAmount ⊢
    rw [hc]
    dsimp only
    rw [hisAmount, hnone, Nat.ofDigitChars_ten_toDigits, hvalue]
    simp only [Bool.not_true, Bool.false_eq_true, if_false, Except.ok.injEq]
    unfold factor
    push_cast
    ring
  | some u =>
    have hu := hunit u rfl
    obtain ⟨k, hk⟩ := Option.isSome_iff_exists.mp hu
    have hlast : (Nat.toDigits 10 m ++ (some u).toList).getLast? = some u := by simp
    have hinit : (Nat.toDigits 10 m ++ (some u).toList).dropLast = Nat.toDigits 10 m := by simp
    rw [hlast]
    dsimp only
    rw [hisAmount, hk, hinit, Nat.ofDigitChars_ten_toDigits, hvalue]
    obtain ⟨hpos, hmul⟩ := factor_mul hk
    have hne : (k : ℚ) ≠ 0 := by exact_mod_cast hpos
    have hmulq : (factor (some u) : ℚ) * k = 10 ^ 12 := by exact_mod_cast hmul
    simp only [Bool.not_true, Bool.false_eq_true, if_false, Except.ok.injEq]
    rw [← hmulq]
    have hfne : (factor (some u) : ℚ) ≠ 0 := by
      intro hzero
      rw [hzero, zero_mul] at hmulq
      norm_num at hmulq
    field_simp

theorem checkAmount_ofMsat {amount_msat : Nat} (h : amount_msat ≤ 21000000 * 10 ^ 11) :
    checkAmount (ofMsat amount_msat) = .ok (ofMsat amount_msat) := by
  have hnonneg : 0 ≤ ofMsat amount_msat := by
    unfold ofMsat
    exact div_nonneg (Nat.cast_nonneg _) (by norm_num)
  have hsupply : ofMsat amount_msat ≤ 21000000 := by
    have hcast : (amount_msat : ℚ) ≤ 21000000 * 10 ^ 11 := by exact_mod_cast h
    unfold ofMsat
    rw [div_le_iff₀ (by norm_num)]
    linarith
  have hmsat : ofMsat amount_msat * 10 ^ 12 / 10 = ((amount_msat : Nat) : ℚ) := by
    unfold ofMsat
    ring
  unfold checkAmount
  rw [if_neg (not_not.mpr ⟨hnonneg, hsupply⟩), hmsat, Rat.den_natCast]
  exact if_neg (not_not.mpr rfl)

theorem getAmountMsat_ofMsat (addr : LnAddr) (amount_msat : Nat)
    (h : addr.amount = some (ofMsat amount_msat)) : addr.getAmountMsat = some (amount_msat : Int) := by
  have hmsat : ofMsat amount_msat * 100000000 * 1000 = ((amount_msat : Nat) : ℚ) := by
    unfold ofMsat
    ring
  unfold LnAddr.getAmountMsat
  rw [h, Option.map_some, hmsat, truncate_natCast]

/-- The amount of an invoice of the plugin is read back. -/
theorem readAmount_ofMsat {amount_msat : Nat} (h : amount_msat ≤ 21000000 * 10 ^ 11) :
    readAmount (shortenAmount (ofMsat amount_msat)) = .ok (some (ofMsat amount_msat)) := by
  have hne : shortenAmount (ofMsat amount_msat) ≠ [] := by
    intro hnil
    have hread := unshorten_shorten amount_msat
    rw [hnil] at hread
    cases hread
  unfold readAmount
  rw [if_neg hne, unshorten_shorten]
  simp only [bind, Except.bind, checkAmount_ofMsat h]
  rfl

/-! ## Bytes -/

theorem map_ofNat_toNat (b : Bytes) : (b.map UInt8.toNat).map UInt8.ofNat = b := by
  rw [List.map_map]
  simp [Function.comp_def]

theorem toNat_lt (b : Bytes) : ∀ v ∈ b.map UInt8.toNat, v < 256 := by
  intro v hv
  obtain ⟨x, -, rfl⟩ := List.mem_map.mp hv
  exact x.toNat_lt

theorem toData5_spec (b : Bytes) : (∀ v ∈ toData5 b, v < 32) ∧
    (toData5 b).length = (8 * b.length + 4) / 5 ∧
    convertbits (toData5 b) 5 8 false = some (b.map UInt8.toNat) := by
  obtain ⟨words, hwords, hlt, hlen, hback⟩ := convertbits_roundtrip (toNat_lt b)
  have heq : toData5 b = words := by
    unfold toData5
    rw [hwords]
    rfl
  rw [heq]
  exact ⟨hlt, by simpa using hlen, hback⟩

theorem toData8_toData5 (b : Bytes) : toData8 (toData5 b) = .ok b := by
  unfold toData8
  rw [(toData5_spec b).2.2]
  dsimp only
  rw [map_ofNat_toNat]

theorem toBytesBE_spec (n len : Nat) (h : n < 256 ^ len) :
    ∃ b, toBytesBE n len = .ok b ∧ b.length = len ∧ fromBytesBE b = n := by
  refine ⟨(toBytesLE n len).reverse, if_pos h, ?_, ?_⟩
  · rw [List.length_reverse, toBytesLE_length]
  · unfold fromBytesBE
    rw [List.reverse_reverse, ofBytesLE_toBytesLE n len h]

theorem decodeUtf8_encodeUtf8 (v : String) : decodeUtf8 (encodeUtf8 v) = .ok v := by
  have hbytes : (⟨v.toUTF8.data.toList.toArray⟩ : ByteArray) = v.toByteArray := by
    rw [Array.toArray_toList]
    rfl
  unfold decodeUtf8 encodeUtf8 String.fromUTF8?
  rw [hbytes, dif_pos v.isValidUTF8]
  rfl

/-! ## Reading one tag -/

theorem charAt_charsetInverse {c : Char} {k : Nat} (h : charsetInverse c = some k) :
    k < 32 ∧ charAt k = .ok c := by
  unfold charsetInverse at h
  obtain ⟨hlt, hget, -⟩ := List.findIdx?_eq_some_iff_getElem.mp h
  have hget : CHARSET[k]? = some c := by
    rw [List.getElem?_eq_getElem hlt]
    exact congrArg some (beq_iff_eq.mp hget)
  refine ⟨hlt, ?_⟩
  unfold charAt
  rw [hget]

theorem tagged5_ok {c : Char} {k : Nat} (data5 : List Nat) (hc : charsetInverse c = some k)
    (h : data5.length < 1024) :
    tagged5 c data5 = .ok ([k, data5.length >>> 5, data5.length &&& 31] ++ data5) := by
  unfold tagged5
  rw [if_pos h, hc]

/-- The words of a tag are below 32. -/
theorem tagged5_lt {c : Char} {data5 words : List Nat} (h : tagged5 c data5 = .ok words)
    (hdata : ∀ v ∈ data5, v < 32) : ∀ v ∈ words, v < 32 := by
  unfold tagged5 at h
  split at h
  · next hlen =>
    split at h
    · next k hk =>
      cases h
      intro v hv
      rw [List.cons_append, List.cons_append, List.cons_append, List.nil_append] at hv
      rcases List.mem_cons.mp hv with rfl | hv
      · exact (charAt_charsetInverse hk).1
      rcases List.mem_cons.mp hv with rfl | hv
      · rw [Nat.shiftRight_eq_div_pow]
        omega
      rcases List.mem_cons.mp hv with rfl | hv
      · exact lt_of_le_of_lt Nat.and_le_right (by decide)
      · exact hdata v hv
    · cases h
  · cases h

/-- `pull_tagged` finds the tag that `tagged5` has written. -/
theorem pullTagged_tagged5 {c : Char} {data5 words : List Nat} (h : tagged5 c data5 = .ok words)
    (rest : List Nat) : pullTagged (words ++ rest) = .ok (c, data5, rest) := by
  unfold tagged5 at h
  split at h
  · next hlen =>
    split at h
    · next k hk =>
      cases h
      have hlength : data5.length >>> 5 * 32 + (data5.length &&& 31) = data5.length := by
        have hmask : data5.length &&& 31 = data5.length % 2 ^ 5 :=
          Nat.and_two_pow_sub_one_eq_mod data5.length 5
        rw [Nat.shiftRight_eq_div_pow, hmask]
        omega
      have hshape : [k, data5.length >>> 5, data5.length &&& 31] ++ data5 ++ rest =
          k :: (data5.length >>> 5) :: (data5.length &&& 31) :: (data5 ++ rest) := rfl
      rw [hshape]
      unfold pullTagged
      dsimp only
      rw [hlength, if_neg (by rw [List.length_append]; omega), List.take_left, List.drop_left,
        (charAt_charsetInverse hk).2]
      rfl
    · cases h
  · cases h

/-! ## Appended tags, and steps of a route hint -/

/-- `addr.tags.append(tag)`. -/
def LnAddr.append (tags : List Tag) (addr : LnAddr) : LnAddr := { addr with tags := addr.tags ++ tags }

theorem append_comp (tags tags' : List Tag) :
    LnAddr.append tags' ∘ LnAddr.append tags = LnAddr.append (tags ++ tags') := by
  funext addr
  unfold LnAddr.append
  simp

theorem append_nil : LnAddr.append [] = id := by
  funext addr
  unfold LnAddr.append
  simp

theorem readRoute_short {s : Bytes} (h : s.length < 51) : readRoute s = [] := by
  have hlen : ((s.drop 49).take 2).length ≠ 2 := by
    rw [List.length_take, List.length_drop]
    omega
  rw [readRoute]
  exact dif_neg hlen

/-- A step of a route hint is read back. -/
theorem readRoute_encodeHop {hop : Hop} (h : hop.Fits) :
    ∃ b, encodeHop hop = .ok b ∧ b.length = 51 ∧ readRoute b = [hop] := by
  obtain ⟨fb, hfb, hfblen, hfbval⟩ := toBytesBE_spec hop.feebase 4 (by simpa using h.feebase)
  obtain ⟨fr, hfr, hfrlen, hfrval⟩ := toBytesBE_spec hop.feerate 4 (by simpa using h.feerate)
  obtain ⟨cl, hcl, hcllen, hclval⟩ := toBytesBE_spec hop.cltv 2 (by simpa using h.cltv)
  refine ⟨hop.pubkey ++ (hop.scid ++ (fb ++ (fr ++ cl))), ?_, ?_, ?_⟩
  · unfold encodeHop
    rw [hfb, hfr, hcl]
    simp [bind, Except.bind, pure, Except.pure]
  · simp only [List.length_append, h.pubkey, h.scid, hfblen, hfrlen, hcllen]
  · generalize hs : hop.pubkey ++ (hop.scid ++ (fb ++ (fr ++ cl))) = s
    have hpub : s.take 33 = hop.pubkey := by rw [← hs, List.take_left' h.pubkey]
    have h33 : s.drop 33 = hop.scid ++ (fb ++ (fr ++ cl)) := by rw [← hs, List.drop_left' h.pubkey]
    have h41 : s.drop 41 = fb ++ (fr ++ cl) := by
      have hdrop := congrArg (List.drop 8) h33
      rwa [List.drop_drop, List.drop_left' h.scid] at hdrop
    have h45 : s.drop 45 = fr ++ cl := by
      have hdrop := congrArg (List.drop 4) h41
      rwa [List.drop_drop, List.drop_left' hfblen] at hdrop
    have h49 : s.drop 49 = cl := by
      have hdrop := congrArg (List.drop 4) h45
      rwa [List.drop_drop, List.drop_left' hfrlen] at hdrop
    have h51 : s.drop 51 = [] := by
      rw [← List.drop_of_length_le (le_of_eq hcllen), ← h49, List.drop_drop]
    have htake : cl.take 2 = cl := List.take_of_length_le (le_of_eq hcllen)
    rw [readRoute, hpub, h33, h41, h45, h49, h51, htake, dif_pos hcllen, List.take_left' h.scid,
      List.take_left' hfblen, List.take_left' hfrlen, hfbval, hfrval, hclval,
      readRoute_short (by decide)]

section Reading

variable [Codecs]

/-- The loop of `lndecode` takes these words in, whatever follows them. -/
def Reads (words : List Nat) (f : LnAddr → LnAddr) : Prop :=
  ∀ addr rest, readTags addr (words ++ rest) = readTags (f addr) rest

theorem readTags_pulled {addr addr' : LnAddr} {data5 tagdata rest : List Nat} {tag : Char}
    (hpull : pullTagged data5 = .ok (tag, tagdata, rest))
    (hread : readTag addr tag tagdata = .ok addr') : readTags addr data5 = readTags addr' rest := by
  have hne : data5 ≠ [] := by
    rintro rfl
    cases hpull
  rw [readTags, if_neg hne]
  split
  · next e he =>
    rw [hpull] at he
    cases he
  · next tag' tagdata' rest' he =>
    rw [hpull] at he
    cases he
    rw [hread]

theorem Reads.nil : Reads [] id := fun _ _ => rfl

theorem Reads.append {words words' : List Nat} {f g : LnAddr → LnAddr} (h : Reads words f)
    (h' : Reads words' g) : Reads (words ++ words') (g ∘ f) := by
  intro addr rest
  rw [List.append_assoc, h, h']
  rfl

theorem Reads.tagged {c : Char} {data5 words : List Nat} {f : LnAddr → LnAddr}
    (h : tagged5 c data5 = .ok words) (hread : ∀ addr, readTag addr c data5 = .ok (f addr)) :
    Reads words f :=
  fun addr rest => readTags_pulled (pullTagged_tagged5 h rest) (hread addr)

/-! ## The tags of the plugin -/

variable [Deployment]

/-- What is read back of a tag. No fallback address is left out. -/
def readBack (tag : Tag) : List Tag := if tag = .f none then [] else [tag]

omit [Codecs] [Deployment] in
theorem flatMap_readBack (tags : List Tag) :
    tags.flatMap readBack = tags.filter fun tag => tag ≠ .f none := by
  induction tags with
  | nil => rfl
  | cons tag tags ih =>
    rw [List.flatMap_cons, ih, List.filter_cons]
    unfold readBack
    by_cases h : tag = .f none <;> simp [h]

/-- The words of a tag are read as the tag. -/
def Transmits (net : Net) (tag : Tag) : Prop :=
  tag ≠ .nine 0 ∧ ∃ words, encodeTag net tag = .ok words ∧ (∀ v ∈ words, v < 32) ∧
    Reads words (LnAddr.append (readBack tag))

/-- No such key is there twice, given those in `tags_set`. -/
def Unrepeated : List Tag → List Char → Prop
  | [], _ => True
  | tag :: tags, tags_set =>
    ¬ (tag.key ∈ once ∧ tag.key ∈ tags_set) ∧ Unrepeated tags (tags_set ++ [tag.key])

/-- One more tag. -/
theorem encodeTags_cons {net : Net} {tag : Tag} {tags : List Tag} {tags_set : List Char}
    {words : List Nat} (hdup : ¬ (tag.key ∈ once ∧ tag.key ∈ tags_set)) (hnine : tag ≠ .nine 0)
    (hwords : encodeTag net tag = .ok words) :
    encodeTags net (tag :: tags) tags_set = (encodeTags net tags (tags_set ++ [tag.key])).map
      fun rest => (words ++ rest.1, rest.2) := by
  rw [encodeTags, if_neg hdup, if_neg hnine, hwords]
  cases encodeTags net tags (tags_set ++ [tag.key]) <;> rfl

/-- **Tags are read back one after the other.** -/
theorem encodeTags_spec {net : Net} {tags : List Tag} {tags_set : List Char}
    (htags : ∀ tag ∈ tags, Transmits net tag) (honce : Unrepeated tags tags_set) :
    ∃ words, encodeTags net tags tags_set = .ok (words, tags_set ++ tags.map Tag.key) ∧
      (∀ v ∈ words, v < 32) ∧ Reads words (LnAddr.append (tags.flatMap readBack)) := by
  induction tags generalizing tags_set with
  | nil =>
    refine ⟨[], ?_, by simp, ?_⟩
    · rw [encodeTags, List.map_nil, List.append_nil]
      rfl
    · rw [List.flatMap_nil, append_nil]
      exact Reads.nil
  | cons tag tags ih =>
    obtain ⟨hnine, words, hwords, hlt, hreads⟩ := htags tag List.mem_cons_self
    obtain ⟨hdup, honce⟩ := honce
    obtain ⟨rest, hrest, hlts, hreadss⟩ := ih (fun t ht => htags t (List.mem_cons_of_mem tag ht)) honce
    refine ⟨words ++ rest, ?_, ?_, ?_⟩
    · rw [encodeTags_cons hdup hnine hwords, hrest, List.map_cons, List.append_assoc]
      rfl
    · intro v hv
      rcases List.mem_append.mp hv with hv | hv
      · exact hlt v hv
      · exact hlts v hv
    · rw [List.flatMap_cons, ← append_comp]
      exact hreads.append hreadss

/-- A tag that cannot be written ends it. -/
theorem encodeTags_error {net : Net} (pre : List Tag) {post : List Tag} {tag : Tag} {tags_set : List Char} {e : LnErr}
    (hpre : ∀ t ∈ pre, Transmits net t) (honce : Unrepeated (pre ++ [tag]) tags_set)
    (he : encodeTag net tag = .error e) : encodeTags net (pre ++ tag :: post) tags_set = .error e := by
  induction pre generalizing tags_set with
  | nil =>
    rw [List.nil_append, encodeTags, if_neg honce.1, he]
    rfl
  | cons t pre ih =>
    obtain ⟨hnine, words, hwords, -⟩ := hpre t List.mem_cons_self
    obtain ⟨hdup, honce⟩ := honce
    rw [List.cons_append, encodeTags_cons hdup hnine hwords,
      ih (fun t' ht => hpre t' (List.mem_cons_of_mem t ht)) honce]
    rfl

/-! ### Each of them -/

theorem transmits_number {net : Net} {v : Nat} (tag : Nat → Tag) (c : Char)
    (hkey : ∃ k, charsetInverse c = some k) (hlen : (digits5 v).length < 1024) (hnine : tag v ≠ .nine 0)
    (hsome : tag v ≠ .f none) (hencode : encodeTag net (tag v) = tagged5 c (digits5 v).reverse)
    (hread : ∀ addr data5, readTag addr c data5 = .ok (addr.append [tag (intFromData5 data5)])) :
    Transmits net (tag v) := by
  obtain ⟨k, hk⟩ := hkey
  have hok := tagged5_ok (digits5 v).reverse hk (by simpa using hlen)
  refine ⟨hnine, _, hencode.trans hok, tagged5_lt hok ?_, Reads.tagged hok ?_⟩
  · intro d hd
    exact digits5_lt (List.mem_reverse.mp hd)
  · intro addr
    rw [hread, intFromData5_digits5]
    unfold readBack
    rw [if_neg hsome]

omit [Codecs] [Deployment] in
theorem length_digits5_lt {v : Nat} (h : v < 2 ^ 35) : (digits5 v).length < 1024 := by
  have hseven : (digits5 v).length ≤ 7 := digits5_length_le_iff.mpr h
  omega

theorem transmits_c {net : Net} {v : Nat} (h : v < 2 ^ 35) : Transmits net (.c v) :=
  transmits_number .c 'c' ⟨24, by decide⟩ (length_digits5_lt h) (by simp) (by simp) rfl
    fun _ _ => rfl

theorem transmits_x {net : Net} {v : Nat} (h : v < 2 ^ 35) : Transmits net (.x v) :=
  transmits_number .x 'x' ⟨6, by decide⟩ (length_digits5_lt h) (by simp) (by simp) rfl
    fun _ _ => rfl

theorem transmits_nine {net : Net} {v : Nat} (hpos : 0 < v) (h : v < 32 ^ 1023) :
    Transmits net (.nine v) := by
  have hlen : (digits5 v).length ≤ 1023 := digits5_length_le_iff.mpr h
  apply transmits_number .nine '9' ⟨5, by decide⟩ (by omega)
  · intro heq
    cases heq
    cases hpos
  · simp
  · show (if v = 0 then _ else _) = _
    rw [if_neg (by omega)]
  · exact fun _ _ => rfl

/-- Feature bits that take more words than a tag has are refused. -/
theorem encodeTag_nine_error {net : Net} {v : Nat} (h : ¬ v < 32 ^ 1023) :
    encodeTag net (.nine v) = .error (.raised .AssertionError) := by
  have hlen : ¬ (digits5 v).length ≤ 1023 := fun hle => h (digits5_length_le_iff.mp hle)
  have hne : v ≠ 0 := by
    rintro rfl
    apply hlen
    rw [digits5_eq]
    simp
  unfold encodeTag
  dsimp only
  rw [if_neg hne]
  unfold tagged5
  rw [if_neg (by rw [List.length_reverse]; omega)]

theorem transmits_f {net : Net} : Transmits net (.f none) := by
  refine ⟨by simp, [], rfl, by simp, ?_⟩
  have hnone : readBack (.f none) = [] := if_pos rfl
  rw [hnone, append_nil]
  exact Reads.nil

theorem transmits_d {net : Net} {v : String} (h : (encodeUtf8 v).length ≤ 639) : Transmits net (.d v) := by
  obtain ⟨hlt, hlen, -⟩ := toData5_spec (encodeUtf8 v)
  have htake : (encodeUtf8 v).take 639 = encodeUtf8 v := List.take_of_length_le h
  have hok := tagged5_ok (c := 'd') (k := 13) (toData5 (encodeUtf8 v)) (by decide) (by omega)
  refine ⟨by simp, _, ?_, tagged5_lt hok hlt, Reads.tagged hok ?_⟩
  · unfold encodeTag tagged8
    dsimp only
    rw [htake]
    exact hok
  · intro addr
    unfold readTag
    dsimp only
    rw [toData8_toData5]
    simp only [bind, Except.bind, decodeUtf8_encodeUtf8]
    rfl

theorem transmits_r {net : Net} {hop : Hop} (h : hop.Fits) : Transmits net (.r [hop]) := by
  obtain ⟨b, hencode, hblen, hroute⟩ := readRoute_encodeHop h
  obtain ⟨hlt, hlen, hback⟩ := toData5_spec b
  have hok := tagged5_ok (c := 'r') (k := 3) (toData5 b) (by decide) (by omega)
  refine ⟨by simp, _, ?_, tagged5_lt hok hlt, Reads.tagged hok ?_⟩
  · unfold encodeTag tagged8
    simp only [List.mapM_cons, List.mapM_nil, hencode, bind, Except.bind, pure, Except.pure,
      List.flatten_cons, List.flatten_nil, List.append_nil]
    exact hok
  · intro addr
    unfold readTag
    dsimp only
    rw [hback]
    -- the hint has 51 bytes, so there is something to read
    cases b with
    | nil => cases hblen
    | cons x xs =>
      rw [List.map_cons]
      dsimp only
      rw [← List.map_cons, map_ofNat_toNat, hroute]
      rfl

/-! ## The whole invoice -/

variable (net : Net) (invoice : InvoiceData)

theorem transmits_tags (h : invoice.features < 32 ^ 1023) :
    ∀ tag ∈ invoice.tags none, Transmits net tag := by
  intro tag htag
  unfold InvoiceData.tags at htag
  rcases List.mem_append.mp htag with htag | htag
  · simp only [List.mem_cons, List.not_mem_nil, or_false] at htag
    rcases htag with rfl | rfl | rfl | rfl | rfl
    · exact transmits_c invoice.final_cltv_lt
    · exact transmits_d invoice.description_le
    · exact transmits_x invoice.expiry_lt
    · exact transmits_nine invoice.features_pos h
    · exact transmits_f
  · obtain ⟨hop, hhop, rfl⟩ := List.mem_map.mp htag
    exact transmits_r (invoice.hints_fit hop hhop)

omit [Codecs] [Deployment] in
theorem unrepeated_hints (hops : List Hop) (tags_set : List Char) :
    Unrepeated (hops.map fun hop => .r [hop]) tags_set := by
  induction hops generalizing tags_set with
  | nil => trivial
  | cons hop hops ih => exact ⟨fun h => absurd h.1 (by simp [once, Tag.key]), ih _⟩

omit [Codecs] [Deployment] in
theorem unrepeated_tags : Unrepeated (invoice.tags none) ['p', 's'] := by
  unfold InvoiceData.tags
  refine ⟨?_, ?_, ?_, ?_, ?_, unrepeated_hints _ _⟩ <;> simp [once, Tag.key]

omit [Deployment] in
/-- A field of 32 bytes. -/
theorem tagged_32 {c : Char} {b : Bytes} {f : LnAddr → LnAddr} (hc : ∃ k, charsetInverse c = some k)
    (hb : b.length = 32) (hread : ∀ addr, readTag addr c (toData5 b) = .ok (f addr)) :
    ∃ words, tagged8 c b = .ok words ∧ (∀ v ∈ words, v < 32) ∧ Reads words f := by
  obtain ⟨k, hk⟩ := hc
  obtain ⟨hlt, hlen, -⟩ := toData5_spec b
  have hok := tagged5_ok (toData5 b) hk (by omega)
  exact ⟨_, hok, tagged5_lt hok hlt, Reads.tagged hok hread⟩

omit [Deployment] in
theorem readTag_p (addr : LnAddr) {b : Bytes} (hb : b.length = 32) :
    readTag addr 'p' (toData5 b) = .ok { addr with paymenthash := some b } := by
  have hlen : (toData5 b).length = 52 := by
    rw [(toData5_spec b).2.1, hb]
  calc readTag addr 'p' (toData5 b)
      = toData8 (toData5 b) >>= fun data8 => pure { addr with paymenthash := some data8 } :=
        if_neg (not_not.mpr hlen)
    _ = .ok { addr with paymenthash := some b } := by
        rw [toData8_toData5]
        rfl

omit [Deployment] in
theorem readTag_s (addr : LnAddr) {b : Bytes} (hb : b.length = 32) :
    readTag addr 's' (toData5 b) = .ok { addr with payment_secret := some b } := by
  have hlen : (toData5 b).length = 52 := by
    rw [(toData5_spec b).2.1, hb]
  calc readTag addr 's' (toData5 b)
      = toData8 (toData5 b) >>= fun data8 => pure { addr with payment_secret := some data8 } :=
        if_neg (not_not.mpr hlen)
    _ = .ok { addr with payment_secret := some b } := by
        rw [toData8_toData5]
        rfl

omit [Codecs] [Deployment] in
theorem ofMsat_ne_zero : ofMsat invoice.amount_msat ≠ 0 := by
  have hne : (invoice.amount_msat : ℚ) ≠ 0 := Nat.cast_ne_zero.mpr (Nat.ne_of_gt invoice.amount_pos)
  unfold ofMsat
  exact div_ne_zero hne (by norm_num)

/-- The words of an invoice of the plugin but for its date and its signature. -/
theorem unsignedParts_spec (h : invoice.features < 32 ^ 1023) : ∃ words,
    unsignedParts (invoice.lnaddr net) =
      .ok (['l', 'n'] ++ (net.BOLT11_HRP ++ shortenAmount (ofMsat invoice.amount_msat)),
        (digits5 invoice.date).reverse ++ words ++ dummySignature) ∧
      (∀ v ∈ words, v < 32) ∧
      Reads words fun addr => { addr with
        paymenthash := some invoice.payment_hash
        payment_secret := some invoice.payment_secret
        tags := addr.tags ++ (invoice.tags none).flatMap readBack } := by
  obtain ⟨hash, hhash, hhashlt, hhashreads⟩ := tagged_32 (c := 'p') ⟨1, by decide⟩ invoice.hash_length
    fun addr => readTag_p addr invoice.hash_length
  obtain ⟨secret, hsecret, hsecretlt, hsecretreads⟩ := tagged_32 (c := 's') ⟨16, by decide⟩
    invoice.secret_length fun addr => readTag_s addr invoice.secret_length
  obtain ⟨tags, htags, htagslt, htagsreads⟩ :=
    encodeTags_spec (transmits_tags net invoice h) (unrepeated_tags invoice)
  have hdate := intToData5_width invoice.date 35 ⟨7, rfl⟩ invoice.date_lt
  refine ⟨hash ++ (secret ++ tags), ?_, ?_, ?_⟩
  · unfold unsignedParts hashWords secretWords InvoiceData.lnaddr
    simp only [hdate, hhash, hsecret, htags, Option.isSome_some, if_true, bind, Except.bind, pure,
      Except.pure]
    have hd : 'd' ∈ ['p', 's'] ++ (invoice.tags none).map Tag.key := by simp [InvoiceData.tags, Tag.key]
    have hh : 'h' ∉ ['p', 's'] ++ (invoice.tags none).map Tag.key := by simp [InvoiceData.tags, Tag.key]
    rw [if_neg fun h => hh h.2, if_neg fun h => h.1 hd, List.append_assoc _ hash, List.append_assoc _ _ tags,
      List.append_assoc hash]
    unfold invoiceHrp
    dsimp only
    rw [if_pos (ofMsat_ne_zero invoice)]
  · intro v hv
    rcases List.mem_append.mp hv with hv | hv
    · exact hhashlt v hv
    rcases List.mem_append.mp hv with hv | hv
    · exact hsecretlt v hv
    · exact htagslt v hv
  · exact hhashreads.append (hsecretreads.append htagsreads)

/-! ## Signed and read -/

omit [Codecs] [Deployment]

/-- A character of a bech32 prefix: printable, and not a capital. -/
def Plain (c : Char) : Prop := 33 ≤ c.toNat ∧ c.toNat ≤ 126 ∧ lower c = c

instance (c : Char) : Decidable (Plain c) := by
  unfold Plain
  infer_instance

theorem plain_digit {c : Char} (h : c.isDigit = true) : Plain c := by
  unfold Char.isDigit at h
  rw [Bool.and_eq_true, decide_eq_true_eq, decide_eq_true_eq] at h
  have hlow : 48 ≤ c.toNat := h.1
  have hhigh : c.toNat ≤ 57 := h.2
  refine ⟨by omega, by omega, ?_⟩
  have hkelvin : c ≠ Char.ofNat 0x212a := by
    rintro rfl
    exact absurd hhigh (by decide)
  unfold lower
  rw [if_neg hkelvin]
  unfold Char.toLower
  apply dif_neg
  rintro ⟨hcapital, -⟩
  have hcapital : 65 ≤ c.toNat := hcapital
  omega

theorem plain_str (n : Int) : ∀ c ∈ str n, Plain c := by
  intro c hc
  cases n with
  | ofNat n => exact plain_digit (isDigit_toDigits n c hc)
  | negSucc n =>
    rcases List.mem_cons.mp hc with rfl | hc
    · decide +kernel
    · exact plain_digit (isDigit_toDigits (n + 1) c hc)

theorem shortenLoop_unit {units : List Char} {amount : Int} {u : Char}
    (h : (shortenLoop units amount).2 = some u) : u ∈ units := by
  induction units generalizing amount with
  | nil => cases h
  | cons v units ih =>
    unfold shortenLoop at h
    split at h
    · exact List.mem_cons_of_mem v (ih h)
    · cases h
      exact List.mem_cons_self

theorem plain_shortenAmount (amount : ℚ) : ∀ c ∈ shortenAmount amount, Plain c := by
  intro c hc
  unfold shortenAmount at hc
  dsimp only at hc
  rcases List.mem_append.mp hc with hc | hc
  · exact plain_str _ c hc
  · have hunit := shortenLoop_unit (Option.mem_toList.mp hc)
    have hunits : ∀ u ∈ ['p', 'n', 'u', 'm'], Plain u := by simp [Plain, lower]
    exact hunits c hunit

theorem plain_hrp (net : Net) : ∀ c ∈ net.BOLT11_HRP, Plain c := by
  cases net <;> simp [Net.BOLT11_HRP, Net.SEGWIT_HRP, Plain, lower]

/-- A prefix that starts with `ln` and goes on with plain characters. -/
theorem prefixes_ln {amount : Text} (h : ∀ c ∈ amount, Plain c) : Prefixes (['l', 'n'] ++ amount) := by
  have hall : ∀ c ∈ ['l', 'n'] ++ amount, Plain c := by
    intro c hc
    rcases List.mem_append.mp hc with hc | hc
    · have hln : ∀ u ∈ ['l', 'n'], Plain u := by simp [Plain, lower]
      exact hln c hc
    · exact h c hc
  refine ⟨by simp, ?_, ?_⟩
  · intro c hc
    exact ⟨(hall c hc).1, (hall c hc).2.1⟩
  · calc (['l', 'n'] ++ amount).map lower
        = (['l', 'n'] ++ amount).map id := by
          apply List.map_congr_left
          intro c hc
          exact (hall c hc).2.2
      _ = ['l', 'n'] ++ amount := List.map_id _

/-- **The words of the text, with another signature.** -/
theorem withSignature_spec {hrp unsigned : Text} {body signature : List Nat} (hhrp : Prefixes hrp)
    (hbody : ∀ v ∈ body, v < 32) (hsig : ∀ v ∈ signature, v < 32)
    (h : bech32Encode .BECH32 hrp (body ++ dummySignature) = .ok unsigned) :
    ∃ signed, withSignature unsigned signature = .ok signed ∧
      bech32Decode signed true = some (.BECH32, hrp, body ++ signature) := by
  have hdummy : ∀ v ∈ body ++ dummySignature, v < 32 := by
    intro v hv
    rcases List.mem_append.mp hv with hv | hv
    · exact hbody v hv
    · rw [List.eq_of_mem_replicate hv]
      decide
  have hwords : ∀ v ∈ body ++ signature, v < 32 := by
    intro v hv
    rcases List.mem_append.mp hv with hv | hv
    · exact hbody v hv
    · exact hsig v hv
  obtain ⟨bech, hencode, hdecode⟩ := decode_encode hhrp hdummy .BECH32
  rw [h] at hencode
  cases hencode
  obtain ⟨signed, hencode, hback⟩ := decode_encode hhrp hwords .BECH32
  have htake : (body ++ dummySignature).take ((body ++ dummySignature).length - 104) = body := by
    have hlen : dummySignature.length = 104 := rfl
    rw [List.length_append, hlen, Nat.add_sub_cancel, List.take_left]
  refine ⟨signed, ?_, hback⟩
  unfold withSignature
  rw [hdecode]
  dsimp only
  rw [htake, hencode]
  rfl

end Reading

section Decoding

variable [Codecs]

/-- What `lndecode` has when it starts with the tags. -/
def untagged (net : Net) (amount : Option ℚ) (body : List Nat) : LnAddr where
  paymenthash := none
  payment_secret := none
  amount := amount
  net := net
  tags := []
  date := intFromData5 (body.take 7)

variable [Deployment]

/-- **Spec of `lndecode`** on a text of its network whose amount can be read. -/
theorem lndecode_words {net : Net} {amountstr signed : Text} {amount : Option ℚ} {body signature : List Nat}
    {sigdecoded : Bytes} (hdecode : bech32Decode signed true =
      some (.BECH32, ['l', 'n'] ++ (net.BOLT11_HRP ++ amountstr), body ++ signature))
    (hlen : signature.length = 104) (hsig : toData8 signature = .ok sigdecoded)
    (hamount : readAmount amountstr = .ok amount) :
    lndecode signed net = (do
      let addr ← readTags (untagged net amount body) (body.drop 7)
      let pubkey ← signer addr sigdecoded (hrpHash (['l', 'n'] ++ (net.BOLT11_HRP ++ amountstr)) body)
      pure { addr with signature := some (sigdecoded.take 65), pubkey := some pubkey }) := by
  have hlong : (body ++ signature).length - 104 = body.length := by
    rw [List.length_append, hlen, Nat.add_sub_cancel]
  have hln : ['l', 'n'].isPrefixOf (['l', 'n'] ++ (net.BOLT11_HRP ++ amountstr)) = true := by simp
  have hnet : net.BOLT11_HRP.isPrefixOf ((['l', 'n'] ++ (net.BOLT11_HRP ++ amountstr)).drop 2) = true := by
    simp
  have hstr : (['l', 'n'] ++ (net.BOLT11_HRP ++ amountstr)).drop (2 + net.BOLT11_HRP.length) =
      amountstr := by
    rw [← List.drop_drop]
    simp
  unfold lndecode
  rw [hdecode]
  dsimp only
  rw [hlong, List.drop_left, List.take_left, hsig, hstr, hamount, if_neg (not_not.mpr rfl),
    if_neg (not_not.mpr hln), if_neg (not_not.mpr hnet),
    if_neg (by rw [List.length_append, hlen]; omega)]
  rfl

omit [Deployment] in
theorem readTags_nil (addr : LnAddr) : readTags addr [] = .ok addr := by
  rw [readTags, if_pos rfl]
  rfl

/-- `lnencode_unsigned` is the text of its parts. -/
theorem lnencodeUnsigned_of_parts {addr : LnAddr} {hrp : Text} {data5 : List Nat}
    (h : unsignedParts addr = .ok (hrp, data5)) (unsigned : Text) :
    lnencodeUnsigned addr = .ok unsigned ↔ bech32Encode .BECH32 hrp data5 = .ok unsigned := by
  have hlift : lnencodeUnsigned addr = Except.mapError .raised (bech32Encode .BECH32 hrp data5) := by
    unfold lnencodeUnsigned
    rw [h]
    rfl
  rw [hlift]
  cases bech32Encode .BECH32 hrp data5 with
  | error e => exact ⟨fun h => (nomatch h), fun h => (nomatch h)⟩
  | ok text => exact ⟨fun h => by cases h; rfl, fun h => by cases h; rfl⟩

/-- Feature bits that no tag can hold. -/
theorem unsignedParts_error {net : Net} {invoice : InvoiceData} (h : ¬ invoice.features < 32 ^ 1023) :
    unsignedParts (invoice.lnaddr net) = .error (.raised .AssertionError) := by
  obtain ⟨hash, hhash, -⟩ := tagged_32 (c := 'p') ⟨1, by decide⟩ invoice.hash_length
    fun addr => readTag_p addr invoice.hash_length
  obtain ⟨secret, hsecret, -⟩ := tagged_32 (c := 's') ⟨16, by decide⟩
    invoice.secret_length fun addr => readTag_s addr invoice.secret_length
  have hdate := intToData5_width invoice.date 35 ⟨7, rfl⟩ invoice.date_lt
  have htags : encodeTags net (invoice.tags none) ['p', 's'] = .error (.raised .AssertionError) := by
    apply encodeTags_error [.c invoice.final_cltv, .d invoice.description, .x invoice.expiry]
    · intro tag htag
      simp only [List.mem_cons, List.not_mem_nil, or_false] at htag
      rcases htag with rfl | rfl | rfl
      · exact transmits_c invoice.final_cltv_lt
      · exact transmits_d invoice.description_le
      · exact transmits_x invoice.expiry_lt
    · refine ⟨?_, ?_, ?_, ?_, trivial⟩ <;> simp [once, Tag.key]
    · exact encodeTag_nine_error h
  unfold unsignedParts hashWords secretWords InvoiceData.lnaddr
  simp only [hdate, hhash, hsecret, htags, Option.isSome_some, if_true, bind, Except.bind]

omit [Codecs] [Deployment] in
theorem prefixes_invoice (net : Net) (amount : ℚ) :
    Prefixes (['l', 'n'] ++ (net.BOLT11_HRP ++ shortenAmount amount)) := by
  apply prefixes_ln
  intro c hc
  rcases List.mem_append.mp hc with hc | hc
  · exact plain_hrp net c hc
  · exact plain_shortenAmount amount c hc

theorem lnencodeUnsigned_ok_iff (net : Net) (invoice : InvoiceData) :
    (∃ unsigned, lnencodeUnsigned (invoice.lnaddr net) = .ok unsigned) ↔
      invoice.features < 32 ^ 1023 := by
  constructor
  · rintro ⟨unsigned, hok⟩
    by_contra hbig
    unfold lnencodeUnsigned at hok
    rw [unsignedParts_error hbig] at hok
    cases hok
  · intro hfeatures
    obtain ⟨words, hparts, hlt, -⟩ := unsignedParts_spec net invoice hfeatures
    have hwords : ∀ v ∈ (digits5 invoice.date).reverse ++ words ++ dummySignature, v < 32 := by
      intro v hv
      rcases List.mem_append.mp hv with hv | hv
      · rcases List.mem_append.mp hv with hv | hv
        · exact digits5_lt (List.mem_reverse.mp hv)
        · exact hlt v hv
      · rw [List.eq_of_mem_replicate hv]
        decide
    obtain ⟨unsigned, hencode, -⟩ := decode_encode (prefixes_invoice net _) hwords .BECH32
    exact ⟨unsigned, (lnencodeUnsigned_of_parts hparts unsigned).mpr hencode⟩

/-- What is read of a signed invoice whose date takes seven words. -/
theorem lndecode_invoice {net : Net} {invoice : InvoiceData} (hdate : 2 ^ 30 ≤ invoice.date)
    {signature : List Nat} (hlen : signature.length = 104) (hsig : ∀ v ∈ signature, v < 32)
    {unsigned : Text} (hok : lnencodeUnsigned (invoice.lnaddr net) = .ok unsigned) :
    ∃ signed, withSignature unsigned signature = .ok signed ∧
      (Recoverable signed → ∃ addr, lndecode signed net = .ok addr ∧
        addr.getAmountMsat = some (invoice.amount_msat : Int) ∧
        addr.date = invoice.date ∧
        addr.paymenthash = some invoice.payment_hash ∧
        addr.payment_secret = some invoice.payment_secret ∧
        addr.tags = (invoice.lnaddr net).tags.filter fun tag => tag ≠ .f none) := by
  have hfeatures := (lnencodeUnsigned_ok_iff net invoice).mp ⟨unsigned, hok⟩
  obtain ⟨words, hparts, hlt, hreads⟩ := unsignedParts_spec net invoice hfeatures
  have hseven : (digits5 invoice.date).reverse.length = 7 := by
    rw [List.length_reverse]
    exact (length_digits5_iff invoice.date 35 ⟨7, rfl⟩ invoice.date_lt).mpr (.inr hdate)
  have hbody : ∀ v ∈ (digits5 invoice.date).reverse ++ words, v < 32 := by
    intro v hv
    rcases List.mem_append.mp hv with hv | hv
    · exact digits5_lt (List.mem_reverse.mp hv)
    · exact hlt v hv
  have hencode := (lnencodeUnsigned_of_parts hparts unsigned).mp hok
  obtain ⟨signed, hsigned, hdecode⟩ :=
    withSignature_spec (prefixes_invoice net _) hbody hsig hencode
  refine ⟨signed, hsigned, ?_⟩
  rintro ⟨encoding, hrp, data5, sigdecoded, key, hdecode', hsigdecoded, hkey⟩
  rw [hdecode] at hdecode'
  cases hdecode'
  have hlong : ((digits5 invoice.date).reverse ++ words ++ signature).length - 104 =
      ((digits5 invoice.date).reverse ++ words).length := by
    rw [List.length_append, hlen, Nat.add_sub_cancel]
  rw [hlong, List.drop_left] at hsigdecoded
  rw [hlong, List.take_left] at hkey
  have hlndecode := lndecode_words hdecode hlen hsigdecoded (readAmount_ofMsat invoice.amount_le)
  rw [List.drop_left' hseven] at hlndecode
  have hread := hreads (untagged net (some (ofMsat invoice.amount_msat))
    ((digits5 invoice.date).reverse ++ words)) []
  rw [List.append_nil, readTags_nil] at hread
  rw [hread] at hlndecode
  simp only [bind, Except.bind, signer, untagged, hkey, List.take_left' hseven] at hlndecode
  refine ⟨_, hlndecode, getAmountMsat_ofMsat _ _ rfl, intFromData5_digits5 _, rfl, rfl, ?_⟩
  exact flatMap_readBack (invoice.tags none)

/-- **The round trip of an invoice.** It is written if its feature bits fit a tag, and what is written
is read back, whatever the signature. -/
theorem lndecode_signed (net : Net) (invoice : InvoiceData) (hdate : 2 ^ 30 ≤ invoice.date)
    (signature : List Nat) (hlen : signature.length = 104) (hsig : ∀ v ∈ signature, v < 32) :
    ((∃ unsigned, lnencodeUnsigned (invoice.lnaddr net) = .ok unsigned) ↔
      invoice.features < 32 ^ 1023) ∧
    ∀ unsigned, lnencodeUnsigned (invoice.lnaddr net) = .ok unsigned →
      ∃ signed, withSignature unsigned signature = .ok signed ∧
        (Recoverable signed → ∃ addr, lndecode signed net = .ok addr ∧
          addr.getAmountMsat = some (invoice.amount_msat : Int) ∧
          addr.date = invoice.date ∧
          addr.paymenthash = some invoice.payment_hash ∧
          addr.payment_secret = some invoice.payment_secret ∧
          addr.tags = (invoice.lnaddr net).tags.filter fun tag => tag ≠ .f none) :=
  ⟨lnencodeUnsigned_ok_iff net invoice, fun _ hok => lndecode_invoice hdate hlen hsig hok⟩

end Decoding

end SubswapProvider.Bolt11
