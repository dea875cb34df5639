import SubswapProvider.Bitcoin

/-!
# Scripts as lists of operations

`script_GetOp` cuts the bytes of a script into operations, and `match_script_against_template` compares
these with a template. What `construct_script` has written is cut as it was put together
(`scriptGetOp_constructScript`). The other way there is a hole: a push at the end of a script may
announce more bytes than there are, and `script_GetOp` gives what is left (`scriptGetOp_uncons`).
-/

namespace SubswapProvider.Chain

/-- An operation with the data it pushes. -/
abbrev Op := UInt8 × Option Bytes

/-- The number of bytes a push announces, and what stands behind it. `none` is a
`MalformedBitcoinScript`. -/
def pushSize (opcode : UInt8) (rest : Bytes) : Option (Nat × Bytes) :=
  if opcode = 0x4c then readNum 1 rest
  else if opcode = 0x4d then readNum 2 rest
  else if opcode = 0x4e then readNum 4 rest
  else some (opcode.toNat, rest)

/-- One round of the loop of `script_GetOp`. A slice stops at the end of the bytes. -/
def getOp (opcode : UInt8) (rest : Bytes) : Option (Op × Bytes) :=
  if opcode ≤ 0x4e then
    (pushSize opcode rest).map fun p => ((opcode, some (p.2.take p.1)), p.2.drop p.1)
  else some ((opcode, none), rest)

/-- The loop of `script_GetOp`; each round takes a byte or more. -/
def getOps : Nat → Bytes → Option (List Op)
  | _, [] => some []
  | 0, _ :: _ => none
  | fuel + 1, opcode :: rest => do
    let (op, rest) ← getOp opcode rest
    let ops ← getOps fuel rest
    pure (op :: ops)

/-- `script_GetOp`. -/
def scriptGetOp (bytes : Bytes) : Option (List Op) := getOps bytes.length bytes

/-! ## Templates -/

/-- An item of a template: an opcode, or a test of one. -/
inductive TemplateItem
  | opcode (op : UInt8)
  /-- `OPPushDataGeneric`. -/
  | pushData (check_data_len : Nat → Bool)
  /-- `OPGeneric`. -/
  | generic (matcher : Nat → Bool)

/-- Whether an operation fits an item. The length of a push is its opcode. -/
def TemplateItem.matches (op : Op) : TemplateItem → Bool
  | .opcode o => o = op.1
  | .pushData check_data_len => check_data_len op.1.toNat
  | .generic matcher => matcher op.1.toNat

/-- `match_script_against_template`, of a script that has been cut already. -/
def matchTemplate (script : List Op) (template : List TemplateItem) : Bool :=
  script.length = template.length && (script.zip template).all fun p => p.2.matches p.1

def SCRIPTPUBKEY_TEMPLATE_P2PKH : List TemplateItem :=
  [.opcode 0x76, .opcode 0xa9, .pushData (· = 20), .opcode 0x88, .opcode 0xac]

def SCRIPTPUBKEY_TEMPLATE_P2SH : List TemplateItem := [.opcode 0xa9, .pushData (· = 20), .opcode 0x87]

def SCRIPTPUBKEY_TEMPLATE_WITNESS_V0 : List TemplateItem :=
  [.opcode 0x00, .pushData fun x => x = 20 || x = 32]

/-- The template of the witness programs of a version from 1 on. -/
def witnessTemplate (opcode : UInt8) : List TemplateItem :=
  [.opcode opcode, .pushData fun x => 2 ≤ x && x ≤ 40]

/-- A script matches a template operation by operation. -/
theorem matchTemplate_iff {script : List Op} {template : List TemplateItem} :
    matchTemplate script template = true ↔
      List.Forall₂ (fun op item => TemplateItem.matches op item = true) script template := by
  unfold matchTemplate
  induction script generalizing template with
  | nil =>
    cases template with
    | nil => simp
    | cons item template => simp
  | cons op script ih =>
    cases template with
    | nil => simp
    | cons item template =>
      rw [List.forall₂_cons, ← ih]
      simp only [List.length_cons, List.zip_cons_cons, List.all_cons, Bool.and_eq_true,
        decide_eq_true_eq, Nat.add_right_cancel_iff]
      tauto

/-! ## Cutting what has been put together -/

section Cutting

variable {opcode : UInt8} {rest bytes : Bytes} {op : Op} {ops : List Op} {fuel : Nat}

theorem pushSize_length {n : Nat} {rest' : Bytes} (h : pushSize opcode rest = some (n, rest')) :
    rest'.length ≤ rest.length := by
  have hnum : ∀ width, readNum width rest = some (n, rest') → rest'.length ≤ rest.length := by
    intro width hread
    unfold readNum readBytes at hread
    split at hread
    · cases hread
      simp
    · cases hread
  unfold pushSize at h
  split at h
  · exact hnum 1 h
  · split at h
    · exact hnum 2 h
    · split at h
      · exact hnum 4 h
      · cases h
        exact Nat.le_refl _

theorem getOp_length {rest' : Bytes} (h : getOp opcode rest = some (op, rest')) :
    rest'.length ≤ rest.length := by
  unfold getOp at h
  split at h
  · obtain ⟨⟨n, t⟩, hpush, heq⟩ := Option.map_eq_some_iff.mp h
    cases heq
    have := pushSize_length hpush
    simp only [List.length_drop]
    omega
  · cases h
    exact Nat.le_refl _

/-- More rounds than there are bytes make no difference. -/
theorem getOps_more (h : bytes.length ≤ fuel) : getOps fuel bytes = scriptGetOp bytes := by
  have hall : ∀ n m (b : Bytes), b.length ≤ n → b.length ≤ m → getOps n b = getOps m b := by
    intro n
    induction n with
    | zero =>
      intro m b hn _
      rw [List.length_eq_zero_iff.mp (Nat.le_zero.mp hn)]
      cases m <;> rfl
    | succ n ih =>
      intro m b hn hm
      cases b with
      | nil => cases m <;> rfl
      | cons opcode rest =>
        obtain ⟨m, rfl⟩ : ∃ m', m = m' + 1 := ⟨m - 1, by rw [List.length_cons] at hm; omega⟩
        rw [List.length_cons] at hn hm
        cases hop : getOp opcode rest with
        | none => simp [getOps, hop]
        | some p =>
          have := getOp_length hop
          simp [getOps, hop, ih m p.2 (by omega) (by omega)]
  exact hall _ _ bytes h (Nat.le_refl _)

/-- **Cutting off one operation.** -/
theorem scriptGetOp_cons : scriptGetOp (opcode :: rest) =
    (getOp opcode rest).bind fun p => (scriptGetOp p.2).map (p.1 :: ·) := by
  cases hop : getOp opcode rest with
  | none => simp [scriptGetOp, getOps, hop]
  | some p =>
    have := getOp_length hop
    show ((getOp opcode rest).bind fun p => (getOps rest.length p.2).bind fun ops => some (p.1 :: ops)) = _
    rw [hop, Option.bind_some, Option.bind_some, getOps_more this]
    cases scriptGetOp p.2 <;> rfl

/-- How the first of some operations stands in the script: a short push announces its data, of which a
part is missing only at the end. -/
structure Uncons (bytes : Bytes) (op : Op) (rest : Bytes) : Prop where
  eq : bytes = op.1 :: (op.2.getD [] ++ rest)
  pushes : op.1 < 0x4c → ∃ data, op.2 = some data ∧ data.length ≤ op.1.toNat ∧
    (data.length < op.1.toNat → rest = [])
  plain : 0x4e < op.1 → op.2 = none

/-- **Back from operations to the script**, where a push is announced by its opcode. -/
theorem scriptGetOp_uncons (h : scriptGetOp bytes = some (op :: ops)) (hop : op.1 < 0x4c ∨ 0x4e < op.1) :
    ∃ rest, Uncons bytes op rest ∧ scriptGetOp rest = some ops := by
  cases bytes with
  | nil => cases h
  | cons opcode rest =>
    rw [scriptGetOp_cons] at h
    obtain ⟨⟨op', rest'⟩, hcut, h⟩ := Option.bind_eq_some_iff.mp h
    obtain ⟨ops', hops, heq⟩ := Option.map_eq_some_iff.mp h
    cases heq
    refine ⟨rest', ?_, hops⟩
    unfold getOp at hcut
    split at hcut
    · next hle =>
      obtain ⟨⟨n, t⟩, hpush, heq⟩ := Option.map_eq_some_iff.mp hcut
      cases heq
      have hshort : opcode < 0x4c := by
        rcases hop with hop | hop
        · exact hop
        · exact absurd hle (UInt8.not_le.mpr hop)
      have hne : ∀ m : UInt8, 0x4c ≤ m → opcode ≠ m := by
        intro m hm heq
        rw [heq] at hshort
        exact absurd hm (UInt8.not_le.mpr hshort)
      unfold pushSize at hpush
      rw [if_neg (hne 0x4c (by decide)), if_neg (hne 0x4d (by decide)),
        if_neg (hne 0x4e (by decide))] at hpush
      cases hpush
      refine ⟨?_, fun _ => ⟨_, rfl, ?_, fun hlt => ?_⟩, fun hplain => ?_⟩
      · rw [Option.getD_some, List.take_append_drop]
      · exact List.length_take_le _ _
      · rw [List.length_take] at hlt
        dsimp only at hlt ⊢
        exact List.drop_of_length_le (by omega)
      · exact absurd hle (UInt8.not_le.mpr hplain)
    · next hle =>
      cases hcut
      refine ⟨rfl, fun hshort => ?_, fun _ => rfl⟩
      exact absurd (UInt8.le_of_lt (UInt8.lt_trans hshort (by decide))) hle

/-- An opcode that pushes nothing is cut off. -/
theorem uncons_opcode {o : UInt8} (h : scriptGetOp bytes = some (op :: ops)) (hop : o = op.1)
    (hplain : 0x4e < o) : ∃ rest, bytes = o :: rest ∧ scriptGetOp rest = some ops := by
  subst hop
  obtain ⟨rest, huncons, hrest⟩ := scriptGetOp_uncons h (.inr hplain)
  refine ⟨rest, ?_, hrest⟩
  rw [huncons.eq, huncons.plain hplain]
  rfl

/-- A push is cut off; it is complete if anything stands behind it. -/
theorem uncons_push (h : scriptGetOp bytes = some (op :: ops)) (hpush : op.1.toNat < 0x4c) :
    ∃ data rest, op.2 = some data ∧ bytes = op.1 :: (data ++ rest) ∧ data.length ≤ op.1.toNat ∧
      (rest ≠ [] → data.length = op.1.toNat) ∧ scriptGetOp rest = some ops := by
  have hlt : op.1 < 0x4c := UInt8.lt_iff_toNat_lt.mpr hpush
  obtain ⟨rest, huncons, hrest⟩ := scriptGetOp_uncons h (.inl hlt)
  obtain ⟨data, hdata, hle, hcut⟩ := huncons.pushes hlt
  refine ⟨data, rest, hdata, ?_, hle, fun hne => ?_, hrest⟩
  · rw [huncons.eq, hdata]
    rfl
  · by_contra hshort
    exact hne (hcut (by omega))

theorem scriptGetOp_eq_nil (h : scriptGetOp bytes = some []) : bytes = [] := by
  cases bytes with
  | nil => rfl
  | cons opcode rest =>
    rw [scriptGetOp_cons] at h
    obtain ⟨p, -, h⟩ := Option.bind_eq_some_iff.mp h
    obtain ⟨ops, -, heq⟩ := Option.map_eq_some_iff.mp h
    cases heq

/-- The opcode of a push of `n` bytes. -/
def pushOpcode (n : Nat) : UInt8 :=
  if n < 0x4c then UInt8.ofNat n else if n ≤ 0xff then 0x4c else if n ≤ 0xffff then 0x4d else 0x4e

theorem getOp_direct {n : Nat} (h : n < 0x4c) (rest : Bytes) :
    getOp (UInt8.ofNat n) rest = some ((UInt8.ofNat n, some (rest.take n)), rest.drop n) := by
  have h8 : n < 2 ^ 8 := by omega
  have hn : (UInt8.ofNat n).toNat = n := UInt8.toNat_ofNat_of_lt' h8
  have hne : ∀ m : UInt8, 0x4c ≤ m.toNat → UInt8.ofNat n ≠ m := by
    intro m hm heq
    rw [← heq, hn] at hm
    omega
  have hle : UInt8.ofNat n ≤ 0x4e := by
    rw [UInt8.le_iff_toNat_le, hn]
    show n ≤ 78
    omega
  unfold getOp pushSize
  rw [if_pos hle, if_neg (hne 0x4c (by decide)), if_neg (hne 0x4d (by decide)),
    if_neg (hne 0x4e (by decide)), hn]
  rfl

/-- What is pushed is read back, whatever stands behind it. -/
theorem getOp_opPush {b : Bytes} (hlen : b.length < 2 ^ 32) : ∃ t,
    opPush b.length ++ (b ++ rest) = pushOpcode b.length :: t ∧
      getOp (pushOpcode b.length) t = some ((pushOpcode b.length, some b), rest) := by
  have hslice : (b ++ rest).take b.length = b ∧ (b ++ rest).drop b.length = rest := by simp
  unfold opPush pushOpcode
  split
  · next h =>
    have hmod : b.length % 256 = b.length := Nat.mod_eq_of_lt (by omega)
    refine ⟨b ++ rest, by simp [toBytesLE, hmod], ?_⟩
    rw [getOp_direct h, hslice.1, hslice.2]
  · split
    · next h =>
      refine ⟨toBytesLE b.length 1 ++ (b ++ rest), rfl, ?_⟩
      unfold getOp pushSize
      rw [if_pos (by decide), if_pos rfl, readNum_toBytesLE _ _ (by omega), Option.map_some,
        hslice.1, hslice.2]
    · split
      · refine ⟨toBytesLE b.length 2 ++ (b ++ rest), rfl, ?_⟩
        unfold getOp pushSize
        rw [if_pos (by decide), if_neg (by decide), if_pos rfl, readNum_toBytesLE _ _ (by omega),
          Option.map_some, hslice.1, hslice.2]
      · refine ⟨toBytesLE b.length 4 ++ (b ++ rest), rfl, ?_⟩
        unfold getOp pushSize
        rw [if_pos (by decide), if_neg (by decide), if_neg (by decide), if_pos rfl,
          readNum_toBytesLE _ _ (by omega), Option.map_some, hslice.1, hslice.2]

/-- The operation `push_script` writes. -/
def pushedOp (data : Bytes) : Op :=
  match data with
  | [] => (0x00, some [])
  | [b] =>
    if b = 0 then (0x00, some [])
    else if b ≤ 16 then (0x50 + b, none)
    else if b = 0x81 then (0x4f, none)
    else (0x01, some [b])
  | _ => (pushOpcode data.length, some data)

/-- The opcodes of small numbers do not announce bytes. -/
theorem small_int {b : UInt8} (hb : b ≠ 0) (h : b ≤ 16) : ¬ 0x50 + b ≤ 0x4e := by
  have hpos : b.toNat ≠ 0 := fun hzero => hb (UInt8.toNat_inj.mp hzero)
  have hle : b.toNat ≤ 16 := UInt8.le_iff_toNat_le.mp h
  rw [UInt8.le_iff_toNat_le, UInt8.toNat_add]
  show ¬ (80 + b.toNat) % 2 ^ 8 ≤ 78
  omega

theorem scriptGetOp_pushScript {b : Bytes} (hlen : b.length < 2 ^ 32) :
    scriptGetOp (pushScript b ++ rest) = (scriptGetOp rest).map (pushedOp b :: ·) := by
  -- the operations without data are one byte long
  have hbyte : ∀ o : UInt8, ¬ o ≤ 0x4e → scriptGetOp ([o] ++ rest) = (scriptGetOp rest).map ((o, none) :: ·) := by
    intro o ho
    rw [List.singleton_append, scriptGetOp_cons]
    unfold getOp
    rw [if_neg ho, Option.bind_some]
  have hzero : scriptGetOp ([0x00] ++ rest) = (scriptGetOp rest).map ((0x00, some []) :: ·) := by
    rw [List.singleton_append, scriptGetOp_cons]
    rfl
  have hpush : scriptGetOp ((opPush b.length ++ b) ++ rest)
      = (scriptGetOp rest).map ((pushOpcode b.length, some b) :: ·) := by
    obtain ⟨t, htext, hop⟩ : ∃ t, opPush b.length ++ (b ++ rest) = pushOpcode b.length :: t ∧
        getOp (pushOpcode b.length) t = some ((pushOpcode b.length, some b), rest) := getOp_opPush hlen
    rw [List.append_assoc, htext, scriptGetOp_cons, hop]
    rfl
  match b, hpush with
  | [], _ => exact hzero
  | [c], hpush =>
    unfold pushScript pushedOp
    dsimp only
    by_cases hc : c = 0
    · rw [if_pos hc, if_pos hc]
      exact hzero
    · rw [if_neg hc, if_neg hc]
      by_cases hsmall : c ≤ 16
      · rw [if_pos hsmall, if_pos hsmall]
        exact hbyte _ (small_int hc hsmall)
      · rw [if_neg hsmall, if_neg hsmall]
        by_cases hneg : c = 0x81
        · rw [if_pos hneg, if_pos hneg]
          exact hbyte _ (by decide)
        · rw [if_neg hneg, if_neg hneg]
          exact hpush
  | _ :: _ :: _, hpush => exact hpush

end Cutting

/-! ## Constructed scripts -/

/-- The operation an item of `construct_script` is written as. -/
def itemOp : ScriptItem → Op
  | .opcode op => (op, none)
  | .number i => pushedOp (scriptNumToBytes i)
  | .data b => pushedOp b

/-- Opcodes do not push, and data is not longer than a push can announce. -/
def ItemFits : ScriptItem → Prop
  | .opcode op => 0x4e < op
  | .number i => (scriptNumToBytes i).length < 2 ^ 32
  | .data b => b.length < 2 ^ 32

/-- **What `construct_script` has written is cut as it was put together.** -/
theorem scriptGetOp_constructScript {items : List ScriptItem} (h : ∀ item ∈ items, ItemFits item) :
    scriptGetOp (constructScript items) = some (items.map itemOp) := by
  induction items with
  | nil => rfl
  | cons item items ih =>
    have hitem := h item List.mem_cons_self
    have hrest := ih fun i hi => h i (List.mem_cons_of_mem item hi)
    unfold constructScript at hrest ⊢
    rw [List.flatMap_cons, List.map_cons]
    cases item with
    | opcode op =>
      rw [List.singleton_append, scriptGetOp_cons]
      unfold getOp
      rw [if_neg (by simpa [ItemFits] using hitem), Option.bind_some, hrest]
      rfl
    | number i =>
      rw [scriptGetOp_pushScript hitem, hrest]
      rfl
    | data b =>
      rw [scriptGetOp_pushScript hitem, hrest]
      rfl

end SubswapProvider.Chain
