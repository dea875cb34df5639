import SubswapProvider.Invoicing
import SubswapProvider.System

/-!
# The timestamp of an invoice

`lndecode` takes the first seven words of an invoice as its date. `lnencode_unsigned` writes as many as
the date has digits, and the tags after them. So a date from 2 ^ 30 on is read back, and no smaller one
is (`decoded_date_iff`).
-/

namespace SubswapProvider.Bolt11

open Bech32 Radix

theorem ok_of_bind {ε α β : Type} {x : Except ε α} {f : α → Except ε β} {b : β} (h : x >>= f = .ok b) :
    ∃ a, x = .ok a ∧ f a = .ok b := by
  cases x with
  | error e => cases h
  | ok a => exact ⟨a, rfl, h⟩

/-! ## What is written -/

theorem toData5_lt {b : Bytes} : ∀ v ∈ toData5 b, v < 32 := (toData5_spec b).1

theorem tagged8_lt {c : Char} {b : Bytes} {words : List Nat} (h : tagged8 c b = .ok words) :
    ∀ v ∈ words, v < 32 := tagged5_lt h toData5_lt

theorem digits5_reverse_lt (val : Nat) : ∀ v ∈ (digits5 val).reverse, v < 32 := by
  intro v hv
  exact digits5_lt (List.mem_reverse.mp hv)

theorem decodeSegwitAddress_le {hrp addr : Text} {wver : Nat} {wprog : List Nat}
    (h : decodeSegwitAddress hrp addr = some (wver, wprog)) : wver ≤ 16 := by
  unfold decodeSegwitAddress at h
  split at h
  · cases h
  · split at h
    · cases h
    · split at h
      · split at h
        · cases h
        · split at h
          · cases h
          · next hle =>
            split at h
            · cases h
            · split at h
              · cases h
              · cases h
                omega
      · cases h

section Writing

variable [Codecs]

theorem fallbackProgram_lt {fallback : Text} {net : Net} {program : Nat × Bytes}
    (h : fallbackProgram fallback net = .ok program) : program.1 < 32 := by
  unfold fallbackProgram at h
  split at h
  · next hsegwit =>
    cases h
    exact lt_of_le_of_lt (decodeSegwitAddress_le hsegwit) (by decide)
  · split at h
    · cases h
    · split at h
      · cases h
        exact (by decide : 17 < 32)
      · split at h
        · cases h
          exact (by decide : 18 < 32)
        · cases h

theorem encodeFallbackAddr_lt {fallback : Text} {net : Net} {words : List Nat}
    (h : encodeFallbackAddr fallback net = .ok words) : ∀ v ∈ words, v < 32 := by
  obtain ⟨program, hprogram, hwords⟩ := ok_of_bind h
  apply tagged5_lt hwords
  intro v hv
  rcases List.mem_cons.mp hv with rfl | hv
  · exact fallbackProgram_lt hprogram
  · exact toData5_lt v hv

variable [Deployment]

/-- Whatever the tag: its words are words. -/
theorem encodeTag_lt {net : Net} {tag : Tag} {words : List Nat} (h : encodeTag net tag = .ok words) :
    ∀ v ∈ words, v < 32 := by
  cases tag with
  | r v =>
    obtain ⟨route, -, h⟩ := ok_of_bind h
    exact tagged8_lt h
  | t v =>
    cases v with
    | inl v =>
      obtain ⟨feebase, -, h⟩ := ok_of_bind h
      obtain ⟨feerate, -, h⟩ := ok_of_bind h
      obtain ⟨cltv, -, h⟩ := ok_of_bind h
      exact tagged8_lt h
    | inr v => cases h
  | f v =>
    cases v with
    | none =>
      cases h
      simp
    | some v => exact encodeFallbackAddr_lt h
  | d v => exact tagged8_lt h
  | x v =>
    have hwords : tagged5 'x' (digits5 v).reverse = .ok words := h
    exact tagged5_lt hwords (digits5_reverse_lt v)
  | h v =>
    cases v with
    | inl v => exact tagged8_lt h
    | inr v => cases h
  | n v => exact tagged8_lt h
  | c v =>
    have hwords : tagged5 'c' (digits5 v).reverse = .ok words := h
    exact tagged5_lt hwords (digits5_reverse_lt v)
  | nine v =>
    unfold encodeTag at h
    dsimp only at h
    split at h
    · cases h
      simp
    · exact tagged5_lt h (digits5_reverse_lt v)
  | other k => cases h

theorem encodeTags_lt {net : Net} {tags : List Tag} {tags_set tags_set' : List Char} {words : List Nat}
    (h : encodeTags net tags tags_set = .ok (words, tags_set')) : ∀ v ∈ words, v < 32 := by
  induction tags generalizing tags_set words with
  | nil =>
    cases h
    simp
  | cons tag tags ih =>
    unfold encodeTags at h
    split at h
    · cases h
    · obtain ⟨first, hfirst, h⟩ := ok_of_bind h
      obtain ⟨rest, hrest, h⟩ := ok_of_bind h
      cases h
      intro v hv
      rcases List.mem_append.mp hv with hv | hv
      · exact encodeTag_lt hfirst v hv
      · exact ih hrest v hv

/-- Prefix and words of any invoice that is written. After its date comes the payment hash, whose tag
starts with a word that is not zero. -/
theorem unsignedParts_inv {addr : LnAddr} {hrp : Text} {data5 : List Nat} (hdate : addr.date < 2 ^ 35)
    (h : unsignedParts addr = .ok (hrp, data5)) : Prefixes hrp ∧ ∃ words,
      data5 = (digits5 addr.date).reverse ++ 1 :: words ++ dummySignature ∧ ∀ v ∈ 1 :: words, v < 32 := by
  unfold unsignedParts at h
  obtain ⟨date, hd, h⟩ := ok_of_bind h
  obtain ⟨hash, hhash, h⟩ := ok_of_bind h
  obtain ⟨secret, hsecret, h⟩ := ok_of_bind h
  obtain ⟨tags, htags, h⟩ := ok_of_bind h
  have hwidth := intToData5_width addr.date 35 ⟨7, rfl⟩ hdate
  rw [hwidth] at hd
  cases hd
  -- the words of the payment hash
  have hp : ∃ rest, hash = 1 :: rest ∧ ∀ v ∈ hash, v < 32 := by
    unfold hashWords at hhash
    split at hhash
    · have hlt := tagged8_lt hhash
      unfold tagged8 tagged5 at hhash
      split at hhash
      · have hone : charsetInverse 'p' = some 1 := by decide
        rw [hone] at hhash
        cases hhash
        exact ⟨_, rfl, hlt⟩
      · cases hhash
    · cases hhash
  have hs : ∀ v ∈ secret, v < 32 := by
    unfold secretWords at hsecret
    split at hsecret
    · exact tagged8_lt hsecret
    · cases hsecret
      simp
  have ht : ∀ v ∈ tags.1, v < 32 := encodeTags_lt htags
  have hprefixes : Prefixes (invoiceHrp addr) := by
    unfold invoiceHrp
    split
    · split
      · exact prefixes_invoice addr.net _
      · exact prefixes_ln (plain_hrp addr.net)
    · exact prefixes_ln (plain_hrp addr.net)
  obtain ⟨rest, rfl, hp⟩ := hp
  split at h
  · cases h
  · split at h
    · cases h
    · cases h
      refine ⟨hprefixes, rest ++ secret ++ tags.1, by simp, ?_⟩
      intro v hv
      rw [← List.cons_append, ← List.cons_append] at hv
      rcases List.mem_append.mp hv with hv | hv
      · rcases List.mem_append.mp hv with hv | hv
        · exact hp v hv
        · exact hs v hv
      · exact ht v hv

end Writing

/-! ## What is read -/

section Reading

variable [Codecs]

theorem readTag_date {addr addr' : LnAddr} {tag : Char} {tagdata : List Nat}
    (h : readTag addr tag tagdata = .ok addr') : addr'.date = addr.date := by
  unfold readTag at h
  dsimp only at h
  split at h
  · split at h
    · cases h; rfl
    · cases h; rfl
    · split at h <;> (cases h; rfl)
  · split at h <;> (cases h; rfl)
  · obtain ⟨fallback, -, h⟩ := ok_of_bind h
    split at h <;> (cases h; rfl)
  · obtain ⟨data8, -, h⟩ := ok_of_bind h
    obtain ⟨description, -, h⟩ := ok_of_bind h
    cases h
    rfl
  · split at h
    · cases h; rfl
    · obtain ⟨data8, -, h⟩ := ok_of_bind h
      cases h
      rfl
  · cases h; rfl
  · split at h
    · cases h; rfl
    · obtain ⟨data8, -, h⟩ := ok_of_bind h
      cases h
      rfl
  · split at h
    · cases h; rfl
    · obtain ⟨data8, -, h⟩ := ok_of_bind h
      cases h
      rfl
  · split at h
    · cases h; rfl
    · obtain ⟨data8, -, h⟩ := ok_of_bind h
      cases h
      rfl
  · cases h; rfl
  · cases h; rfl
  · cases h; rfl

theorem readTags_error {addr : LnAddr} {data5 : List Nat} {e : LnErr} (hne : data5 ≠ [])
    (h : pullTagged data5 = .error e) : readTags addr data5 = .error e := by
  rw [readTags, if_neg hne]
  split
  · next e' he =>
    rw [h] at he
    cases he
    rfl
  · next he =>
    rw [h] at he
    cases he

theorem readTags_refused {addr : LnAddr} {data5 tagdata rest : List Nat} {tag : Char} {e : LnErr}
    (hpull : pullTagged data5 = .ok (tag, tagdata, rest)) (h : readTag addr tag tagdata = .error e) :
    readTags addr data5 = .error e := by
  have hne : data5 ≠ [] := by
    rintro rfl
    cases hpull
  rw [readTags, if_neg hne]
  split
  · next he =>
    rw [hpull] at he
    cases he
  · next he =>
    rw [hpull] at he
    cases he
    rw [h]

/-- No tag touches the date. -/
theorem readTags_date {addr addr' : LnAddr} {data5 : List Nat} (h : readTags addr data5 = .ok addr') :
    addr'.date = addr.date := by
  induction addr, data5 using readTags.induct with
  | case1 addr =>
    rw [readTags_nil] at h
    cases h
    rfl
  | case2 addr data5 hne e he =>
    rw [readTags_error hne he] at h
    cases h
  | case3 addr data5 hne tag tagdata rest hpull e he =>
    rw [readTags_refused hpull he] at h
    cases h
  | case4 addr data5 hne tag tagdata rest hpull addr'' hread ih =>
    rw [readTags_pulled hpull hread] at h
    rw [ih h, readTag_date hread]

variable [Deployment]

/-- **The date that is read** is the number of the first seven words. -/
theorem lndecode_date {signed hrp : Text} {net : Net} {decoded : LnAddr} {encoding : Encoding}
    {body signature : List Nat} (hdecode : bech32Decode signed true = some (encoding, hrp, body ++ signature))
    (hlen : signature.length = 104) (h : lndecode signed net = .ok decoded) :
    decoded.date = intFromData5 (body.take 7) := by
  have hlong : (body ++ signature).length - 104 = body.length := by
    rw [List.length_append, hlen, Nat.add_sub_cancel]
  unfold lndecode at h
  rw [hdecode] at h
  dsimp only at h
  rw [hlong, List.drop_left, List.take_left] at h
  split at h
  · cases h
  split at h
  · cases h
  split at h
  · cases h
  split at h
  · cases h
  obtain ⟨sigdecoded, -, h⟩ := ok_of_bind h
  obtain ⟨amount, -, h⟩ := ok_of_bind h
  obtain ⟨addr, hread, h⟩ := ok_of_bind h
  obtain ⟨pubkey, -, h⟩ := ok_of_bind h
  cases h
  exact readTags_date hread

/-- **The text of any invoice, signed**: the words of its date, those of its tags, and the signature. -/
theorem signed_words (addr : LnAddr) {unsigned : Text} {signature : List Nat} (hdate : addr.date < 2 ^ 35)
    (hsig : ∀ v ∈ signature, v < 32) (h : lnencodeUnsigned addr = .ok unsigned) :
    ∃ signed hrp words, withSignature unsigned signature = .ok signed ∧
      bech32Decode signed true =
        some (.BECH32, hrp, (digits5 addr.date).reverse ++ 1 :: words ++ signature) := by
  obtain ⟨⟨hrp, data5⟩, hparts, -⟩ := ok_of_bind h
  obtain ⟨hprefixes, words, rfl, hlt⟩ := unsignedParts_inv hdate hparts
  have hbody : ∀ v ∈ (digits5 addr.date).reverse ++ 1 :: words, v < 32 := by
    intro v hv
    rcases List.mem_append.mp hv with hv | hv
    · exact digits5_reverse_lt addr.date v hv
    · exact hlt v hv
  have hencode := (lnencodeUnsigned_of_parts hparts unsigned).mp h
  obtain ⟨signed, hsigned, hdecode⟩ := withSignature_spec hprefixes hbody hsig hencode
  exact ⟨signed, hrp, words, hsigned, hdecode⟩

end Reading

/-! ## The date -/

/-- The first seven words are those of the date if there are seven of them. Otherwise they are followed
by a word that is not zero, and the number is a larger one. -/
theorem first_words_iff {date : Nat} (hdate : date < 2 ^ 35) (words : List Nat) :
    intFromData5 (((digits5 date).reverse ++ 1 :: words).take 7) = date ↔ 2 ^ 30 ≤ date := by
  have hfills := length_digits5_iff date 35 ⟨7, rfl⟩ hdate
  have hle : (digits5 date).length ≤ 7 := digits5_length_le_iff.mpr hdate
  have hiff : (digits5 date).length = 7 ↔ 2 ^ 30 ≤ date := by
    rw [hfills]
    unfold Fills
    simp
  rw [← hiff]
  constructor
  · intro hread
    by_contra hshort
    obtain ⟨k, hk⟩ : ∃ k, 7 = (digits5 date).reverse.length + (k + 1) := by
      refine ⟨6 - (digits5 date).length, ?_⟩
      rw [List.length_reverse]
      omega
    have htake : ((digits5 date).reverse ++ 1 :: words).take 7 =
        (digits5 date).reverse ++ 1 :: words.take k := by
      rw [hk, List.take_length_add_append, List.take_succ_cons]
    have hvalue : value 32 (digits5 date).reverse = date := by
      rw [← intFromData5_eq, intFromData5_digits5]
    rw [htake, intFromData5_eq, value_append, hvalue, value_cons] at hread
    have hpos : 0 < 32 ^ (words.take k).length := Nat.pow_pos (by decide)
    have hgrow : date ≤ date * 32 ^ (1 :: words.take k).length :=
      Nat.le_mul_of_pos_right date (Nat.pow_pos (by decide))
    omega
  · intro hseven
    rw [List.take_left' (by rw [List.length_reverse, hseven]), intFromData5_digits5]

variable [Codecs] [Deployment]

/-- **The date of an invoice is read back if and only if it takes seven words.** -/
theorem decoded_date_iff (addr : LnAddr) {decoded : LnAddr} {net : Net} {unsigned signed : Text}
    {signature : List Nat} (hdate : addr.date < 2 ^ 35) (hlen : signature.length = 104)
    (hsig : ∀ v ∈ signature, v < 32) (h : lnencodeUnsigned addr = .ok unsigned)
    (hsigned : withSignature unsigned signature = .ok signed) (hdecoded : lndecode signed net = .ok decoded) :
    decoded.date = addr.date ↔ 2 ^ 30 ≤ addr.date := by
  obtain ⟨signed', hrp, words, hsigned', hdecode⟩ := signed_words addr hdate hsig h
  rw [hsigned] at hsigned'
  cases hsigned'
  rw [lndecode_date hdecode hlen hdecoded]
  exact first_words_iff hdate words

/-- Of an invoice of the plugin, whose other parts are always read. -/
theorem invoice_date_iff {net : Net} {invoice : InvoiceData} {unsigned : Text} {signature : List Nat}
    (hlen : signature.length = 104) (hsig : ∀ v ∈ signature, v < 32)
    (h : lnencodeUnsigned (invoice.lnaddr net) = .ok unsigned) :
    ∃ signed, withSignature unsigned signature = .ok signed ∧ (Recoverable signed →
      ((∃ decoded, lndecode signed net = .ok decoded ∧ decoded.date = invoice.date) ↔
        2 ^ 30 ≤ invoice.date)) := by
  obtain ⟨signed, -, -, hsigned, -⟩ := signed_words (invoice.lnaddr net) invoice.date_lt hsig h
  refine ⟨signed, hsigned, fun hrecoverable => ⟨?_, ?_⟩⟩
  · rintro ⟨decoded, hdecoded, hdate⟩
    exact (decoded_date_iff (invoice.lnaddr net) invoice.date_lt hlen hsig h hsigned hdecoded).mp
      hdate
  · intro hdate
    obtain ⟨signed', hsigned', hread⟩ := lndecode_invoice hdate hlen hsig h
    rw [hsigned] at hsigned'
    cases hsigned'
    obtain ⟨decoded, hdecoded, -, hdecodedDate, -⟩ := hread hrecoverable
    exact ⟨decoded, hdecoded, hdecodedDate⟩

/-- `int_to_data5` without a width: the number is read back, and there is no leading zero. -/
def Shortest (val : Nat) : Prop :=
  ∃ data5, intToData5 val none = .ok data5 ∧ data5.head? ≠ some 0 ∧ intFromData5 data5 = val

/-- **Numbers as words.** With a width a number has that many words if and only if it fills them;
without one it is written as short as it can be. So of the dates below 2 ^ 35 that
`lnencode_unsigned` writes `lndecode` gives back those from 2 ^ 30 on: of any invoice that it reads, and
of any invoice of the plugin. -/
theorem data5_exact_iff :
    (∀ val bit_len : Nat, 5 ∣ bit_len → val < 2 ^ bit_len → (Exact val bit_len ↔ Fills bit_len val)) ∧
    (∀ val, Shortest val) ∧
    (∀ (addr decoded : LnAddr) (net : Net) (unsigned signed : Text) (signature : List Nat),
      addr.date < 2 ^ 35 → signature.length = 104 → (∀ v ∈ signature, v < 32) →
      lnencodeUnsigned addr = .ok unsigned → withSignature unsigned signature = .ok signed →
      lndecode signed net = .ok decoded → (decoded.date = addr.date ↔ 2 ^ 30 ≤ addr.date)) ∧
    ∀ (net : Net) (invoice : InvoiceData) (unsigned : Text) (signature : List Nat),
      signature.length = 104 → (∀ v ∈ signature, v < 32) →
      lnencodeUnsigned (invoice.lnaddr net) = .ok unsigned →
      ∃ signed, withSignature unsigned signature = .ok signed ∧ (Recoverable signed →
        ((∃ decoded, lndecode signed net = .ok decoded ∧ decoded.date = invoice.date) ↔
          2 ^ 30 ≤ invoice.date)) := by
  refine ⟨?_, ?_, ?_, ?_⟩
  · intro val bit_len h hval
    exact intToData5_exact_iff h hval
  · intro val
    exact ⟨_, rfl, head_digits5 val, intFromData5_digits5 val⟩
  · intro addr decoded net unsigned signed signature hdate hlen hsig h hsigned hdecoded
    exact decoded_date_iff addr hdate hlen hsig h hsigned hdecoded
  · intro net invoice unsigned signature hlen hsig h
    exact invoice_date_iff hlen hsig h

omit [Codecs] [Deployment] in
/-- The number 1 at a width of 35 bits is one word, not seven. -/
theorem one_not_exact : ¬ ∀ val bit_len : Nat, 5 ∣ bit_len → val < 2 ^ bit_len → Exact val bit_len := by
  intro h
  have hexact := h 1 35 ⟨7, rfl⟩ (by decide)
  rw [intToData5_exact_iff ⟨7, rfl⟩ (by decide)] at hexact
  exact absurd hexact (by decide)

end SubswapProvider.Bolt11

namespace SubswapProvider

open Bolt11

namespace Sample

/-- A curve on which a key is recovered for the four recovery flags. -/
@[reducible] def codecs : Codecs where
  b58AddressToHash160 _ := none
  hash160ToB58Address _ _ := []
  ecdsaVerify _ _ _ := .ok true
  fromEcdsaSig64 _ recid _ :=
    if recid < 4 then .ok (2 :: List.replicate 32 4) else .error (.raised .ValueError)

def routingHint : Hop where
  pubkey := 3 :: List.replicate 32 9
  scid := [0, 0, 103, 0, 0, 1, 0, 0]
  feebase := 1000
  feerate := 100
  cltv := 40

/-- An invoice over 50,001 satoshis with two routing hints. -/
def swapInvoice : InvoiceData where
  payment_hash := List.replicate 32 7
  payment_secret := List.replicate 32 11
  amount_msat := 50001000
  date := 1700000000
  final_cltv := 147
  description := "swap"
  expiry := 3600
  features := 2 ^ 8 + 2 ^ 14 + 2 ^ 17
  routing_hints := [routingHint, routingHint]
  hash_length := rfl
  secret_length := rfl
  amount_pos := by decide
  amount_le := by decide
  date_lt := by decide
  final_cltv_lt := by decide
  description_le := by decide
  expiry_lt := by decide
  features_pos := by decide
  hints_fit := by
    have hfits : routingHint.Fits := ⟨rfl, rfl, by decide, by decide, by decide⟩
    simpa using hfits

/-- A signature with recovery flag 0. -/
def signatureWords : List Nat := List.replicate 102 15 ++ [0, 0]

end Sample

section

open Sample

attribute [local instance] Sample.deployment Sample.codecs

theorem Bolt11.lndecode_signed_swap :
    ((∃ unsigned, lnencodeUnsigned (swapInvoice.lnaddr .regtest) = .ok unsigned) ↔
      swapInvoice.features < 32 ^ 1023) ∧
    ∀ unsigned, lnencodeUnsigned (swapInvoice.lnaddr .regtest) = .ok unsigned →
      ∃ signed, withSignature unsigned signatureWords = .ok signed ∧
        (Recoverable signed → ∃ addr, lndecode signed .regtest = .ok addr ∧
          addr.getAmountMsat = some (swapInvoice.amount_msat : Int) ∧
          addr.date = swapInvoice.date ∧
          addr.paymenthash = some swapInvoice.payment_hash ∧
          addr.payment_secret = some swapInvoice.payment_secret ∧
          addr.tags = (swapInvoice.lnaddr .regtest).tags.filter fun tag => tag ≠ .f none) :=
  lndecode_signed .regtest swapInvoice (by decide) signatureWords rfl (by decide)

theorem Bolt11.data5_exact_iff_date : Exact 1700000000 35 ↔ Fills 35 1700000000 :=
  data5_exact_iff.1 1700000000 35 ⟨7, rfl⟩ (by decide)

end

end SubswapProvider
