import SubswapProvider.Frame
import SubswapProvider.System
import SubswapProvider.Library.Script

/-!
# The lockup script

The script both kinds of swaps lock their funds with, as the interpreter of witness scripts reads it. A
witness of a signature and a second item takes the first branch if that item has 32 bytes, and then has to
hash to the payment hash; otherwise it takes the second, and then the locktime must have been reached
(`satisfies_swapScript`).
-/

namespace SubswapProvider

open Deployment Effect Script

/-! ## What the builder writes -/

theorem ofBytesLE_eq (b : Bytes) : ofBytesLE b = unsigned b := by
  induction b with
  | nil => rfl
  | cons a b ih =>
    unfold unsigned at ih ⊢
    rw [List.map_cons, Nat.ofDigits_cons, ← ih]
    rfl

theorem unsigned_toBytesLE {n len : Nat} (h : n < 256 ^ len) : unsigned (toBytesLE n len) = n := by
  rw [← ofBytesLE_eq, ofBytesLE_toBytesLE n len h]

theorem magnitudeBytes_eq {fuel n : Nat} (h : n ≤ fuel) :
    magnitudeBytes fuel n = (Nat.digits 256 n).map UInt8.ofNat := by
  induction fuel generalizing n with
  | zero =>
    obtain rfl : n = 0 := Nat.le_zero.mp h
    rfl
  | succ fuel ih =>
    unfold magnitudeBytes
    split
    · next hzero =>
      subst hzero
      rfl
    · next hpos =>
      have hdiv : n / 256 ≤ fuel := by omega
      rw [ih hdiv, Nat.digits_def' (by decide) (Nat.pos_of_ne_zero hpos), List.map_cons]

theorem signBit_iff (b : UInt8) : b &&& 0x80 ≠ 0 ↔ ¬ b.toNat < 128 := by
  have hall : ∀ n < 256, UInt8.ofNat n &&& 0x80 ≠ 0 ↔ ¬ n < 128 := by decide +kernel
  have hb := hall b.toNat b.toNat_lt
  rw [UInt8.ofNat_toNat] at hb
  exact hb

/-- `script_num_to_bytes` writes the numbers of the interpreter. -/
theorem scriptNumToBytes_eq (i : Nat) : scriptNumToBytes i = encodeNum i := by
  unfold scriptNumToBytes encodeNum
  dsimp only
  rw [magnitudeBytes_eq le_rfl]
  cases hlast : ((Nat.digits 256 i).map UInt8.ofNat).getLast? with
  | none => exact List.getLast?_eq_none_iff.mp hlast
  | some top =>
    dsimp only
    by_cases hlow : top.toNat < 128
    · rw [if_pos hlow, if_neg (fun h => (signBit_iff top).mp h hlow)]
    · rw [if_neg hlow, if_pos ((signBit_iff top).mpr hlow)]

theorem readOp_opPush {data : Bytes} (h : data.length < 2 ^ 32) (rest : Bytes) :
    readOp (opPush data.length ++ data ++ rest) = some (.push data, rest) := by
  rw [List.append_assoc]
  unfold opPush
  split
  · next hlt =>
    refine readOp_direct ?_ (by omega) rest
    have hlt : data.length % 256 < 2 ^ 8 := by omega
    rw [UInt8.toNat_ofNat_of_lt' hlt]
    omega
  · split
    · exact readOp_sized (.inl ⟨rfl, rfl⟩) (toBytesLE_length _ _) (unsigned_toBytesLE (by omega)) rest
    · split
      · exact readOp_sized (.inr (.inl ⟨rfl, rfl⟩)) (toBytesLE_length _ _)
          (unsigned_toBytesLE (by omega)) rest
      · exact readOp_sized (.inr (.inr ⟨rfl, rfl⟩)) (toBytesLE_length _ _)
          (unsigned_toBytesLE (by omega)) rest

/-- **`push_script` is read back**, but for the single byte zero, which it writes as the empty item. -/
theorem readOp_pushScript {data : Bytes} (hne : data ≠ [0]) (h : data.length < 2 ^ 32) (rest : Bytes) :
    readOp (pushScript data ++ rest) = some (.push data, rest) := by
  unfold pushScript
  split
  · rfl
  · next b =>
    split
    · next hzero => exact absurd (by rw [hzero]) hne
    · next hzero =>
      have hpos : 0 < b.toNat := by
        apply Nat.pos_of_ne_zero
        intro h0
        apply hzero
        rw [← UInt8.ofNat_toNat (x := b), h0]
        rfl
      split
      · next hle => exact readOp_small hpos hle rest
      · split
        · next heq =>
          subst heq
          rfl
        · have hlength : [b].length < 2 ^ 32 := by simp
          exact readOp_opPush hlength rest
  · exact readOp_opPush h rest

theorem scriptNumToBytes_ne_zero (i : Nat) : scriptNumToBytes i ≠ [0] := by
  intro h
  have hdecode := decodeNum_encodeNum i
  rw [← scriptNumToBytes_eq, h] at hdecode
  have hzero : decodeNum [0] = 0 := by decide
  rw [hzero] at hdecode
  obtain rfl : i = 0 := by exact_mod_cast hdecode.symm
  cases h

namespace ScriptItem

/-- What is written for an item. -/
def bytes : ScriptItem → Bytes
  | .opcode op => [op]
  | .number i => pushScript (scriptNumToBytes i)
  | .data b => pushScript b

/-- What it is read as. -/
def instr : ScriptItem → Instr
  | .opcode op => .op (.ofByte op)
  | .number i => .push (encodeNum i)
  | .data b => .push b

/-- An item that is read back. -/
def Legible : ScriptItem → Prop
  | .opcode op => 0x60 < op.toNat
  | .number i => (encodeNum i).length < 2 ^ 32
  | .data b => b ≠ [0] ∧ b.length < 2 ^ 32

theorem readOp_bytes {item : ScriptItem} (h : item.Legible) (rest : Bytes) :
    readOp (item.bytes ++ rest) = some (item.instr, rest) := by
  cases item with
  | opcode op => exact readOp_op h rest
  | number i =>
    show readOp (pushScript (scriptNumToBytes i) ++ rest) = some (.push (encodeNum i), rest)
    rw [← scriptNumToBytes_eq]
    refine readOp_pushScript (scriptNumToBytes_ne_zero i) ?_ rest
    rw [scriptNumToBytes_eq]
    exact h
  | data b => exact readOp_pushScript h.1 h.2 rest

end ScriptItem

theorem constructScript_eq (items : List ScriptItem) :
    constructScript items = items.flatMap ScriptItem.bytes := by
  unfold constructScript
  congr 1

/-- **A built script runs as its items do**, one after another. -/
theorem eval_constructScript (ctx : Context) {items : List ScriptItem}
    (h : ∀ item ∈ items, item.Legible) (st : State) :
    eval ctx (constructScript items) st = run ctx (items.map ScriptItem.instr) st := by
  rw [constructScript_eq]
  induction items generalizing st with
  | nil => simp
  | cons item items ih =>
    have ih := ih fun i hi => h i (List.mem_cons_of_mem item hi)
    rw [List.flatMap_cons, eval_cons (ScriptItem.readOp_bytes (h item List.mem_cons_self) _),
      List.map_cons]
    cases hexec : exec ctx st item.instr with
    | none => exact (run_fails hexec _).symm
    | some st' =>
      rw [run_cons hexec]
      exact ih st'

/-! ## The two branches -/

section

variable {ctx : Context} {hash claimKey refundKey sig x : Bytes} {locktime : Nat}

/-- The items of the template are read back. -/
theorem legible_swapScript (hhash : hash.length = 20) (hclaim : claimKey.length = 33)
    (hrefund : refundKey.length = 33) (hlocktime : locktime < LOCKTIME_THRESHOLD) :
    ∀ item ∈ [ScriptItem.opcode 0x82, .number 32, .opcode 0x87, .opcode 0x63, .opcode 0xa9, .data hash,
      .opcode 0x88, .data claimKey, .opcode 0x67, .opcode 0x75, .number locktime, .opcode 0xb1,
      .opcode 0x75, .data refundKey, .opcode 0x68, .opcode 0xac], item.Legible := by
  have hdata : ∀ b : Bytes, b.length = 20 ∨ b.length = 33 → (ScriptItem.data b).Legible := by
    intro b hb
    refine ⟨?_, by omega⟩
    rintro rfl
    simp at hb
  have hnumber : ∀ n < LOCKTIME_THRESHOLD, (ScriptItem.number n).Legible := by
    intro n hn
    have hlength : (encodeNum n).length ≤ 5 := by
      apply length_encodeNum_le
      unfold LOCKTIME_THRESHOLD at hn
      omega
    show (encodeNum n).length < 2 ^ 32
    omega
  have hopcode : ∀ op : UInt8, 0x60 < op.toNat → (ScriptItem.opcode op).Legible := fun _ h => h
  simp only [List.forall_mem_cons, List.not_mem_nil, false_implies, implies_true, and_true]
  refine ⟨?_, ?_, ?_, ?_, ?_, ?_, ?_, ?_, ?_, ?_, ?_, ?_, ?_, ?_, ?_, ?_⟩
  all_goals first
    | exact hopcode _ (by decide)
    | exact hdata _ (.inl hhash)
    | exact hdata _ (.inr hclaim)
    | exact hdata _ (.inr hrefund)
    | exact hnumber _ hlocktime
    | exact hnumber _ (by decide)

/-- What the first branch comes to. -/
def claimResult (ctx : Context) (hash claimKey sig x : Bytes) : Option State :=
  if ctx.hash160 x = hash then some ⟨[boolItem (ctx.checkSig sig claimKey)], []⟩ else none

/-- What the second branch comes to. -/
def refundResult (ctx : Context) (locktime : Nat) (refundKey sig : Bytes) : Option State :=
  if ctx.Reached locktime then some ⟨[boolItem (ctx.checkSig sig refundKey)], []⟩ else none

/-- Four instructions decide on the branch. -/
theorem run_size (ctx : Context) (sig x : Bytes) (rest : List Instr) :
    run ctx (.op .opSize :: .push (encodeNum 32) :: .op .opEqual :: .op .opIf :: rest) ⟨[x, sig], []⟩ =
      run ctx rest ⟨[x, sig], [decide (x.length = 32)]⟩ := by
  have hsame : decide (encodeNum 32 = encodeNum x.length) = decide (x.length = 32) := by
    apply decide_eq_decide.mpr
    rw [encodeNum_inj]
    exact eq_comm
  have hsize : exec ctx ⟨[x, sig], []⟩ (.op .opSize) = some ⟨[encodeNum x.length, x, sig], []⟩ := rfl
  have hequal : exec ctx ⟨[encodeNum 32, encodeNum x.length, x, sig], []⟩ (.op .opEqual) =
      some ⟨[boolItem (decide (encodeNum 32 = encodeNum x.length)), x, sig], []⟩ := rfl
  have hif : exec ctx ⟨[boolItem (decide (x.length = 32)), x, sig], []⟩ (.op .opIf) =
      some ⟨[x, sig], [truthy (boolItem (decide (x.length = 32)))]⟩ := rfl
  rw [run_cons hsize, run_cons (exec_push (by decide) rfl), run_cons hequal, hsame, run_cons hif,
    truthy_boolItem]

/-- The first branch, and the check of the signature behind the second. -/
theorem run_claim (ctx : Context) (hhash : hash.length ≤ 520) (hclaim : claimKey.length ≤ 520)
    (hrefund : refundKey.length ≤ 520) (hlocktime : (encodeNum locktime).length ≤ 520) (sig x : Bytes) :
    run ctx [.op .opHash160, .push hash, .op .opEqualverify, .push claimKey, .op .opElse, .op .opDrop,
        .push (encodeNum locktime), .op .opChecklocktimeverify, .op .opDrop, .push refundKey,
        .op .opEndif, .op .opChecksig] ⟨[x, sig], [true]⟩ =
      claimResult ctx hash claimKey sig x := by
  have hhashed : exec ctx ⟨[x, sig], [true]⟩ (.op .opHash160) = some ⟨[ctx.hash160 x, sig], [true]⟩ := rfl
  have hverify : exec ctx ⟨[hash, ctx.hash160 x, sig], [true]⟩ (.op .opEqualverify) =
      (if hash = ctx.hash160 x then some [sig] else none).map fun stack => ⟨stack, [true]⟩ := rfl
  rw [run_cons hhashed, run_cons (exec_push hhash rfl)]
  unfold claimResult
  by_cases heq : ctx.hash160 x = hash
  · rw [if_pos heq.symm] at hverify
    have helse : exec ctx ⟨[claimKey, sig], [true]⟩ (.op .opElse) = some ⟨[claimKey, sig], [false]⟩ := rfl
    have hskip : ∀ o ∈ [Opcode.opDrop, .opChecklocktimeverify],
        exec ctx ⟨[claimKey, sig], [false]⟩ (.op o) = some ⟨[claimKey, sig], [false]⟩ := by
      intro o ho
      rcases List.mem_pair.mp ho with rfl | rfl <;> rfl
    have hendif : exec ctx ⟨[claimKey, sig], [false]⟩ (.op .opEndif) = some ⟨[claimKey, sig], []⟩ := rfl
    have hchecked : exec ctx ⟨[claimKey, sig], []⟩ (.op .opChecksig) =
        some ⟨[boolItem (ctx.checkSig sig claimKey)], []⟩ := rfl
    rw [if_pos heq, run_cons hverify, run_cons (exec_push hclaim rfl), run_cons helse,
      run_cons (hskip _ (by simp)), run_cons (exec_push_skipped hlocktime rfl),
      run_cons (hskip _ (by simp)), run_cons (hskip _ (by simp)),
      run_cons (exec_push_skipped hrefund rfl), run_cons hendif, run_cons hchecked, run_nil]
  · rw [if_neg fun h => heq h.symm] at hverify
    rw [if_neg heq, run_fails hverify]

/-- The second branch. -/
theorem run_refund (ctx : Context) (hhash : hash.length ≤ 520) (hclaim : claimKey.length ≤ 520)
    (hrefund : refundKey.length ≤ 520) (hlocktime : (encodeNum locktime).length ≤ 5) (sig x : Bytes) :
    run ctx [.op .opHash160, .push hash, .op .opEqualverify, .push claimKey, .op .opElse, .op .opDrop,
        .push (encodeNum locktime), .op .opChecklocktimeverify, .op .opDrop, .push refundKey,
        .op .opEndif, .op .opChecksig] ⟨[x, sig], [false]⟩ =
      refundResult ctx locktime refundKey sig := by
  have hskip : ∀ o ∈ [Opcode.opHash160, .opEqualverify],
      exec ctx ⟨[x, sig], [false]⟩ (.op o) = some ⟨[x, sig], [false]⟩ := by
    intro o ho
    rcases List.mem_pair.mp ho with rfl | rfl <;> rfl
  have helse : exec ctx ⟨[x, sig], [false]⟩ (.op .opElse) = some ⟨[x, sig], [true]⟩ := rfl
  have hdrop : ∀ y, exec ctx ⟨[y, sig], [true]⟩ (.op .opDrop) = some ⟨[sig], [true]⟩ := fun _ => rfl
  have hlock : exec ctx ⟨[encodeNum locktime, sig], [true]⟩ (.op .opChecklocktimeverify) =
      (if (encodeNum locktime).length ≤ 5 ∧ ctx.Reached (decodeNum (encodeNum locktime)) then
        some [encodeNum locktime, sig] else none).map fun stack => ⟨stack, [true]⟩ := rfl
  rw [decodeNum_encodeNum] at hlock
  rw [run_cons (hskip _ (by simp)), run_cons (exec_push_skipped hhash rfl),
    run_cons (hskip _ (by simp)), run_cons (exec_push_skipped hclaim rfl), run_cons helse,
    run_cons (hdrop x), run_cons (exec_push (by omega) rfl)]
  unfold refundResult
  by_cases hreached : ctx.Reached locktime
  · rw [if_pos ⟨hlocktime, hreached⟩] at hlock
    have hendif : exec ctx ⟨[refundKey, sig], [true]⟩ (.op .opEndif) = some ⟨[refundKey, sig], []⟩ := rfl
    have hchecked : exec ctx ⟨[refundKey, sig], []⟩ (.op .opChecksig) =
        some ⟨[boolItem (ctx.checkSig sig refundKey)], []⟩ := rfl
    rw [if_pos hreached, run_cons hlock, run_cons (hdrop _), run_cons (exec_push hrefund rfl),
      run_cons hendif, run_cons hchecked, run_nil]
  · rw [if_neg fun h => hreached h.2] at hlock
    rw [if_neg hreached, run_fails hlock]

/-- **The run of the script** on a signature and a second item. -/
theorem eval_swapScript (ctx : Context) (hhash : hash.length = 20) (hclaim : claimKey.length = 33)
    (hrefund : refundKey.length = 33) (hlocktime : locktime < LOCKTIME_THRESHOLD) (sig x : Bytes) :
    eval ctx (swapScript hash claimKey locktime refundKey) ⟨[x, sig], []⟩ =
      if x.length = 32 then claimResult ctx hash claimKey sig x
      else refundResult ctx locktime refundKey sig := by
  have hnum : (encodeNum locktime).length ≤ 5 := by
    apply length_encodeNum_le
    unfold LOCKTIME_THRESHOLD at hlocktime
    omega
  unfold swapScript
  rw [eval_constructScript ctx (legible_swapScript hhash hclaim hrefund hlocktime)]
  refine (run_size ctx sig x _).trans ?_
  by_cases h32 : x.length = 32
  · rw [if_pos h32, decide_eq_true h32]
    exact run_claim ctx (by omega) (by omega) (by omega) (by omega) sig x
  · rw [if_neg h32, decide_eq_false h32]
    exact run_refund ctx (by omega) (by omega) (by omega) hnum sig x

end

/-! ## Who can spend -/

/-- The first path: a preimage of 32 bytes, and a signature for the key at position 7. -/
structure ClaimPath (ctx : Context) (hash claimKey sig x : Bytes) : Prop where
  size : x.length = 32
  hash : ctx.hash160 x = hash
  signed : ctx.checkSig sig claimKey = true

/-- The second: a block height that is not before the locktime, and a signature for the key at position
13. -/
structure RefundPath (ctx : Context) (locktime : Nat) (refundKey sig x : Bytes) : Prop where
  size : x.length ≠ 32
  height : ctx.lockTime < LOCKTIME_THRESHOLD
  reached : locktime ≤ ctx.lockTime
  notFinal : ctx.sequence ≠ SEQUENCE_FINAL
  signed : ctx.checkSig sig refundKey = true

theorem reached_iff (ctx : Context) {locktime : Nat} (h : locktime < LOCKTIME_THRESHOLD) :
    ctx.Reached locktime ↔
      ctx.lockTime < LOCKTIME_THRESHOLD ∧ locktime ≤ ctx.lockTime ∧ ctx.sequence ≠ SEQUENCE_FINAL := by
  have hcast : (locktime : Int) < LOCKTIME_THRESHOLD := by exact_mod_cast h
  constructor
  · rintro ⟨-, hkind, hle, hnot⟩
    exact ⟨hkind.mp hcast, by exact_mod_cast hle, hnot⟩
  · rintro ⟨hkind, hle, hnot⟩
    exact ⟨Int.natCast_nonneg _, iff_of_true hcast hkind, by exact_mod_cast hle, hnot⟩

/-- What a branch leaves on the stack decides. -/
theorem satisfied_iff {b : Bool} {p : Prop} [Decidable p] :
    (∃ item, (if p then some (⟨[boolItem b], []⟩ : State) else none) = some ⟨[item], []⟩ ∧
      truthy item = true) ↔ p ∧ b = true := by
  constructor
  · rintro ⟨item, hrun, htrue⟩
    by_cases hp : p
    · rw [if_pos hp] at hrun
      cases hrun
      rw [truthy_boolItem] at htrue
      exact ⟨hp, htrue⟩
    · rw [if_neg hp] at hrun
      cases hrun
  · rintro ⟨hp, hb⟩
    refine ⟨boolItem b, if_pos hp, ?_⟩
    rw [truthy_boolItem, hb]

/-- **The script has two spending paths.** -/
theorem satisfies_swapScript (ctx : Context) {hash claimKey refundKey : Bytes} {locktime : Nat}
    (hhash : hash.length = 20) (hclaim : claimKey.length = 33) (hrefund : refundKey.length = 33)
    (hlocktime : locktime < LOCKTIME_THRESHOLD) (sig x : Bytes) :
    Satisfies ctx (swapScript hash claimKey locktime refundKey) [sig, x] ↔
      ClaimPath ctx hash claimKey sig x ∨ RefundPath ctx locktime refundKey sig x := by
  have hrun := eval_swapScript ctx hhash hclaim hrefund hlocktime sig x
  unfold Satisfies
  show (∃ item, eval ctx _ ⟨[x, sig], []⟩ = _ ∧ _) ↔ _
  rw [hrun]
  by_cases h32 : x.length = 32
  · rw [if_pos h32]
    apply Iff.trans satisfied_iff
    constructor
    · rintro ⟨hhash, hsigned⟩
      exact .inl ⟨h32, hhash, hsigned⟩
    · rintro (hpath | hpath)
      · exact ⟨hpath.hash, hpath.signed⟩
      · exact absurd h32 hpath.size
  · rw [if_neg h32]
    apply Iff.trans satisfied_iff
    rw [reached_iff ctx hlocktime]
    constructor
    · rintro ⟨⟨hheight, hle, hnot⟩, hsigned⟩
      exact .inr ⟨h32, hheight, hle, hnot, hsigned⟩
    · rintro (hpath | hpath)
      · exact absurd hpath.size h32
      · exact ⟨⟨hpath.height, hpath.reached, hpath.notFinal⟩, hpath.signed⟩

/-! ## What the two creations lock with -/

/-- The object at `ref` is `swap`, stored or not. -/
def World.Holds (ref : SwapRef) (swap : SwapData) (w : World) : Prop :=
  ∃ db, w.heap ref = { swap with db := db }

section

variable {ref : SwapRef} {swap : SwapData}

theorem World.holds_alloc {s s' : World} (h : s' = s) : (s'.allocSwap swap).Holds s.nextRef swap := by
  subst h
  exact ⟨swap.db, Function.update_self _ _ _⟩

theorem holds_addOrReindexSwap : Keeps (World.Holds ref swap) (addOrReindexSwap ref) := by
  refine Keeps.get fun w => Keeps.ite Keeps.pure (Keeps.modify fun s hs => ?_)
  obtain ⟨db, hdb⟩ := hs
  refine ⟨true, (Function.update_self _ _ _).trans ?_⟩
  rw [hdb]

theorem holds_registerAddress (env : Env) (address : Address) :
    Keeps (World.Holds ref swap) (registerAddress env address) := by
  unfold registerAddress
  exact Keeps.ite Keeps.pure Keeps.throw

theorem holds_addLnwatcherCallback : Keeps (World.Holds ref swap) (addLnwatcherCallback ref) :=
  Keeps.modify fun _ hs => hs

theorem triple_any {α : Type} (x : PyM α) :
    Triple (fun _ => True) x (fun _ _ => True) fun _ _ => True := by
  intro s _
  split <;> trivial

/-- What follows the new object may raise, but leaves it there. -/
theorem triple_ofKeeps {α : Type} {I : World → Prop} {x : PyM α} (h : Keeps I x) :
    Triple I x (fun _ => I) fun _ _ => True :=
  Triple.conseq h (fun _ hs => hs) (fun _ _ hs => hs) fun _ _ _ => trivial

end

section

variable [Deployment]

/-- The parts of a swap that decide who can spend its output, at a height. -/
structure NormalTerms (env : Env) (payment_hash their_pubkey : Bytes) (swap : SwapData) : Prop where
  isReverse : swap.isReverse = false
  paymentHash : swap.paymentHash = payment_hash
  locktime : ∃ height ∈ env.localHeight, swap.locktime = height + LOCKTIME_DELTA_REFUND
  redeemScript : swap.redeemScript =
    swapScript (ripemd payment_hash) their_pubkey swap.locktime (publicKey swap.privkey)

structure ReverseTerms (env : Env) (their_pubkey : Bytes) (swap : SwapData) : Prop where
  isReverse : swap.isReverse = true
  paymentHash : swap.paymentHash = sha256 env.urandomPreimage
  locktime : ∃ height ∈ env.localHeight, swap.locktime = height + LOCKTIME_DELTA_REFUND
  preimage : swap.preimage = some env.urandomPreimage
  redeemScript : swap.redeemScript = swapScript (ripemd (sha256 env.urandomPreimage))
    (publicKey swap.privkey) swap.locktime their_pubkey

theorem triple_createNormalSwap_terms (env : Env) (lightning_amount_sat : Int)
    (payment_hash their_pubkey : Bytes) :
    Triple (fun _ => True) (createNormalSwap env lightning_amount_sat payment_hash their_pubkey)
      (fun created s => NormalTerms env payment_hash their_pubkey (s.heap created.1))
      fun _ _ => True := by
  unfold createNormalSwap
  refine triple_pyAssert (fun _ _ => trivial) fun _ => triple_orRaise (fun _ _ => trivial)
    fun height hheight => triple_getRecvAmount (fun _ _ => trivial) fun pairs => ?_
  refine Triple.pre (R := fun _ => True) ?_ fun _ _ => trivial
  refine Triple.bind (R := fun created s => NormalTerms env payment_hash their_pubkey
    (s.heap created.1)) ?_ fun created => Triple.modifyBind (fun _ hs => hs) (Triple.pure fun _ hs => hs)
  unfold addNormalSwap
  refine Triple.bind (triple_any _) fun _ => Triple.bind (triple_any _) fun _ => Triple.bind (triple_any _) fun _ =>
    Triple.bind (triple_any _) fun _ => triple_orRaise (fun _ _ => trivial) fun _ _ =>
    Triple.getBind fun s _ => ?_
  refine Triple.modifyBind (R := World.Holds s.nextRef _) (fun _ => World.holds_alloc) ?_
  refine Triple.bind (triple_ofKeeps holds_addOrReindexSwap) fun _ =>
    Triple.bind (triple_ofKeeps (holds_registerAddress env _)) fun _ =>
    Triple.bind (triple_ofKeeps holds_addLnwatcherCallback) fun _ => Triple.pure fun s' hs' => ?_
  obtain ⟨db, hdb⟩ := hs'
  rw [hdb]
  exact ⟨rfl, rfl, ⟨height, hheight, rfl⟩, rfl⟩

theorem triple_createReverseSwap_terms (env : Env) (lightning_amount_sat : Int)
    (their_pubkey : Bytes) :
    Triple (fun _ => True) (createReverseSwap env lightning_amount_sat their_pubkey)
      (fun ref s => ReverseTerms env their_pubkey (s.heap ref)) fun _ _ => True := by
  unfold createReverseSwap addReverseSwap
  refine triple_orRaise (fun _ _ => trivial) fun height hheight => Triple.bind (triple_any _)
    fun onchain_amount_sat => triple_orRaise (fun _ _ => trivial) fun _ _ =>
    Triple.bind (triple_any _) fun _ => Triple.getBind fun s _ => ?_
  refine Triple.modifyBind (R := World.Holds s.nextRef _) (fun _ => World.holds_alloc) ?_
  refine Triple.bind (triple_ofKeeps holds_addOrReindexSwap) fun _ =>
    Triple.bind (triple_ofKeeps holds_addLnwatcherCallback) fun _ => Triple.pure fun s' hs' => ?_
  obtain ⟨db, hdb⟩ := hs'
  rw [hdb]
  exact ⟨rfl, rfl, ⟨height, hheight, rfl⟩, rfl, rfl⟩

/-! ## What the plugin spends with -/

/-- `set_rbf(True)`. -/
def CLAIM_SEQUENCE : Nat := 0xffffffff - 2

/-- Whether a signature is valid for a key, in the transaction that spends an output to an address at a
lock time. -/
abbrev Verifier := TxOutpoint → Address → Int → Nat → Bytes → Bytes → Bool

/-- A claim transaction, as the script of its input sees it. -/
def PartialTransaction.context (valid : Verifier) (tx : PartialTransaction) : Context where
  hash160 x := ripemd (sha256 x)
  checkSig := valid tx.prevout tx.address tx.value tx.locktime
  lockTime := tx.locktime
  sequence := CLAIM_SEQUENCE

/-- What the libraries promise: the lengths of what they make, and that a signature is valid for the key it
is made with. -/
structure Primitives (valid : Verifier) : Prop where
  ripemd_length : ∀ b, (ripemd b).length = 20
  publicKey_length : ∀ k, (publicKey k).length = 33
  signature_length : ∀ prevout address value locktime k,
    (signTxin prevout address value locktime k).length ≤ 73
  signature_valid : ∀ prevout address value locktime k,
    valid prevout address value locktime (signTxin prevout address value locktime k) (publicKey k) = true

/-- The same swap later on. The preimage of a normal one may have been found since. -/
structure SameTerms (swap swap' : SwapData) : Prop where
  isReverse : swap'.isReverse = swap.isReverse
  locktime : swap'.locktime = swap.locktime
  redeemScript : swap'.redeemScript = swap.redeemScript
  privkey : swap'.privkey = swap.privkey
  preimage : swap.isReverse = true → swap'.preimage = swap.preimage

theorem triple_createAndSignClaimTx (env : Env) (txin : PartialTxInput) (swap : SwapData) :
    Triple (fun _ => True) (createAndSignClaimTx env txin swap)
      (fun tx _ => tx.locktime = (if swap.isReverse then 0 else swap.locktime) ∧
        swap.claimWitness (signTxin tx.prevout tx.address tx.value tx.locktime swap.privkey) =
          some tx.witness)
      fun _ _ => True := by
  unfold createAndSignClaimTx
  refine triple_raiseIf (fun _ _ _ => trivial) fun _ => triple_pyAssert (fun _ _ => trivial) fun _ => ?_
  exact triple_orRaise (fun _ _ => trivial) fun witness hwitness => Triple.pure fun _ _ => ⟨rfl, hwitness⟩

section

omit [Deployment]

theorem length_pushScript_le (data : Bytes) : (pushScript data).length ≤ data.length + 5 := by
  have hop : ∀ n, (opPush n).length ≤ 5 := by
    intro n
    unfold opPush
    split
    · rw [toBytesLE_length]
      omega
    · split
      · rw [List.length_cons, toBytesLE_length]
        omega
      · split
        · rw [List.length_cons, toBytesLE_length]
          omega
        · rw [List.length_cons, toBytesLE_length]
  unfold pushScript
  split
  · simp
  · next b =>
    split
    · simp
    · split
      · simp
      · split
        · simp
        · have := hop 1
          rw [List.length_append]
          omega
  · have := hop data.length
    rw [List.length_append]
    omega

/-- No item of the template is longer than a pushed key. -/
theorem length_swapScript_le {hash claimKey refundKey : Bytes} {locktime : Nat}
    (hhash : hash.length = 20) (hclaim : claimKey.length = 33) (hrefund : refundKey.length = 33)
    (hlocktime : locktime < LOCKTIME_THRESHOLD) :
    (swapScript hash claimKey locktime refundKey).length ≤ 608 := by
  have hdata : ∀ b : Bytes, b.length ≤ 33 → (pushScript b).length ≤ 38 := by
    intro b hb
    have hpush := length_pushScript_le b
    omega
  have hnumber : ∀ n < LOCKTIME_THRESHOLD, (pushScript (scriptNumToBytes n)).length ≤ 38 := by
    intro n hn
    apply hdata
    rw [scriptNumToBytes_eq]
    have hnum : (encodeNum n).length ≤ 5 := by
      apply length_encodeNum_le
      unfold LOCKTIME_THRESHOLD at hn
      omega
    omega
  unfold swapScript
  rw [constructScript_eq, List.length_flatMap]
  refine (List.sum_le_card_nsmul _ 38 ?_).trans ?_
  swap
  · rw [List.length_map]
    exact Nat.le_refl (16 * 38)
  simp only [List.map_cons, List.map_nil, List.forall_mem_cons, List.not_mem_nil, false_implies,
    implies_true, and_true, ScriptItem.bytes, List.length_singleton]
  refine ⟨by decide, hnumber _ (by decide), by decide, by decide, by decide, hdata _ (by omega),
    by decide, hdata _ (by omega), by decide, by decide, hnumber _ hlocktime, by decide, by decide,
    hdata _ (by omega), by decide, by decide⟩

end

omit [Deployment] in
/-- The witness of a claim, read back. -/
theorem witness_readBack {sig x script : Bytes} (hsig : sig.length ≤ 73) (hx : x.length ≤ 32)
    (hscript : script.length ≤ 608) :
    witnessElements (some (constructWitness [sig, x, script])) = some [sig, x, script] := by
  apply witnessElements_constructWitness
  · simp
  · intro item hitem
    simp only [List.mem_cons, List.not_mem_nil, or_false] at hitem
    rcases hitem with rfl | rfl | rfl <;> omega

/-- The script of a swap has the two paths, for whoever spends its output. -/
def TwoPaths (swap : SwapData) (claimKey refundKey : Bytes) : Prop :=
  ∀ ctx : Context, (∀ x, ctx.hash160 x = ripemd (sha256 x)) → ∀ sig x,
    Satisfies ctx swap.redeemScript [sig, x] ↔
      ClaimPath ctx (ripemd swap.paymentHash) claimKey sig x ∨
      RefundPath ctx swap.locktime refundKey sig x

/-- Every transaction made for the swap takes one of the paths. -/
def TakesPath (valid : Verifier) (swap : SwapData) (path : Context → Bytes → Bytes → Prop) : Prop :=
  ∀ env txin swap' s tx s', SameTerms swap swap' → createAndSignClaimTx env txin swap' s = .ok tx s' →
    ∃ sig x, witnessElements (some tx.witness) = some [sig, x, swap.redeemScript] ∧
      path (tx.context valid) sig x ∧ Satisfies (tx.context valid) swap.redeemScript [sig, x]

section

variable {valid : Verifier} {env : Env} {their_pubkey : Bytes} {swap : SwapData}

theorem NormalTerms.twoPaths {payment_hash : Bytes} (h : NormalTerms env payment_hash their_pubkey swap)
    (hprim : Primitives valid) (hkey : their_pubkey.length = 33)
    (hlocktime : swap.locktime < LOCKTIME_THRESHOLD) :
    TwoPaths swap their_pubkey (publicKey swap.privkey) := by
  intro ctx _ sig x
  rw [h.redeemScript, h.paymentHash]
  exact satisfies_swapScript ctx (hprim.ripemd_length _) hkey (hprim.publicKey_length _) hlocktime sig x

/-- The refund of a normal swap takes the second path. -/
theorem NormalTerms.takesPath {payment_hash : Bytes} (h : NormalTerms env payment_hash their_pubkey swap)
    (hprim : Primitives valid) (hkey : their_pubkey.length = 33)
    (hlocktime : swap.locktime < LOCKTIME_THRESHOLD) :
    TakesPath valid swap fun ctx => RefundPath ctx swap.locktime (publicKey swap.privkey) := by
  intro env' txin swap' s tx s' hsame hrun
  have hspec := triple_createAndSignClaimTx env' txin swap' s trivial
  rw [hrun] at hspec
  obtain ⟨hlock, hwitness⟩ := hspec
  have hnormal : swap'.isReverse = false := hsame.isReverse.trans h.isReverse
  unfold SwapData.claimWitness at hwitness
  simp only [hnormal, Bool.false_eq_true, if_false, Option.some.injEq] at hlock hwitness
  rw [hsame.locktime] at hlock
  rw [hsame.redeemScript, hsame.privkey] at hwitness
  have hpath : RefundPath (tx.context valid) swap.locktime (publicKey swap.privkey)
      (signTxin tx.prevout tx.address tx.value tx.locktime swap.privkey) [] := by
    have hheight : tx.locktime < LOCKTIME_THRESHOLD := by
      rw [hlock]
      exact hlocktime
    have hnotFinal : CLAIM_SEQUENCE ≠ SEQUENCE_FINAL := by decide
    exact ⟨by decide, hheight, hlock.ge, hnotFinal, hprim.signature_valid _ _ _ _ _⟩
  refine ⟨_, [], ?_, hpath, ?_⟩
  · rw [← hwitness]
    refine witness_readBack (hprim.signature_length _ _ _ _ _) (Nat.zero_le _) ?_
    rw [h.redeemScript]
    exact length_swapScript_le (hprim.ripemd_length _) hkey (hprim.publicKey_length _) hlocktime
  · apply (h.twoPaths hprim hkey hlocktime _ (fun _ => rfl) _ _).mpr
    exact .inr hpath

theorem ReverseTerms.twoPaths (h : ReverseTerms env their_pubkey swap) (hprim : Primitives valid)
    (hkey : their_pubkey.length = 33) (hlocktime : swap.locktime < LOCKTIME_THRESHOLD) :
    TwoPaths swap (publicKey swap.privkey) their_pubkey := by
  intro ctx _ sig x
  rw [h.redeemScript, h.paymentHash]
  exact satisfies_swapScript ctx (hprim.ripemd_length _) (hprim.publicKey_length _) hkey hlocktime sig x

/-- The claim of a reverse swap takes the first. -/
theorem ReverseTerms.takesPath (h : ReverseTerms env their_pubkey swap) (hprim : Primitives valid)
    (hkey : their_pubkey.length = 33) (hlocktime : swap.locktime < LOCKTIME_THRESHOLD)
    (hpreimage : env.urandomPreimage.length = 32) :
    TakesPath valid swap fun ctx =>
      ClaimPath ctx (ripemd swap.paymentHash) (publicKey swap.privkey) := by
  intro env' txin swap' s tx s' hsame hrun
  have hspec := triple_createAndSignClaimTx env' txin swap' s trivial
  rw [hrun] at hspec
  obtain ⟨-, hwitness⟩ := hspec
  have hreverse : swap'.isReverse = true := hsame.isReverse.trans h.isReverse
  have hfound : swap'.preimage = some env.urandomPreimage :=
    (hsame.preimage h.isReverse).trans h.preimage
  unfold SwapData.claimWitness at hwitness
  rw [if_pos hreverse, hfound, Option.map_some, Option.some.injEq, hsame.redeemScript,
    hsame.privkey] at hwitness
  have hpath : ClaimPath (tx.context valid) (ripemd swap.paymentHash) (publicKey swap.privkey)
      (signTxin tx.prevout tx.address tx.value tx.locktime swap.privkey) env.urandomPreimage := by
    have hhash : ripemd (sha256 env.urandomPreimage) = ripemd swap.paymentHash := by rw [h.paymentHash]
    exact ⟨hpreimage, hhash, hprim.signature_valid _ _ _ _ _⟩
  refine ⟨_, env.urandomPreimage, ?_, hpath, ?_⟩
  · rw [← hwitness]
    refine witness_readBack (hprim.signature_length _ _ _ _ _) hpreimage.le ?_
    rw [h.redeemScript]
    exact length_swapScript_le (hprim.ripemd_length _) (hprim.publicKey_length _) hkey hlocktime
  · apply (h.twoPaths hprim hkey hlocktime _ (fun _ => rfl) _ _).mpr
    exact .inl hpath

end

/-- **The lockup script has exactly the two intended spending paths**, and the plugin's own transactions
take the one that is its own: the refund of a normal swap the second, the claim of a reverse swap the
first. -/
theorem lockup_spending_paths {valid : Verifier} (hprim : Primitives valid) (env : Env)
    {their_pubkey : Bytes} (hkey : their_pubkey.length = 33)
    (hheight : ∀ height ∈ env.localHeight, height + LOCKTIME_DELTA_REFUND < LOCKTIME_THRESHOLD)
    (lightning_amount_sat : Int) (w w' : World) :
    (∀ payment_hash ref invoice prepay_invoice,
      createNormalSwap env lightning_amount_sat payment_hash their_pubkey w =
        .ok (ref, invoice, prepay_invoice) w' →
      (w'.heap ref).isReverse = false ∧ (w'.heap ref).paymentHash = payment_hash ∧
      TwoPaths (w'.heap ref) their_pubkey (publicKey (w'.heap ref).privkey) ∧
      TakesPath valid (w'.heap ref) fun ctx =>
        RefundPath ctx (w'.heap ref).locktime (publicKey (w'.heap ref).privkey)) ∧
    (∀ ref, env.urandomPreimage.length = 32 →
      createReverseSwap env lightning_amount_sat their_pubkey w = .ok ref w' →
      (w'.heap ref).isReverse = true ∧
      TwoPaths (w'.heap ref) (publicKey (w'.heap ref).privkey) their_pubkey ∧
      TakesPath valid (w'.heap ref) fun ctx =>
        ClaimPath ctx (ripemd (w'.heap ref).paymentHash) (publicKey (w'.heap ref).privkey)) := by
  have hbelow : ∀ swap : SwapData,
      (∃ height ∈ env.localHeight, swap.locktime = height + LOCKTIME_DELTA_REFUND) →
      swap.locktime < LOCKTIME_THRESHOLD := by
    rintro swap ⟨height, hmem, heq⟩
    rw [heq]
    exact hheight height hmem
  constructor
  · intro payment_hash ref invoice prepay_invoice hrun
    have hterms := triple_createNormalSwap_terms env lightning_amount_sat payment_hash their_pubkey w trivial
    rw [hrun] at hterms
    have hlocktime := hbelow _ hterms.locktime
    exact ⟨hterms.isReverse, hterms.paymentHash, hterms.twoPaths hprim hkey hlocktime,
      hterms.takesPath hprim hkey hlocktime⟩
  · intro ref hpreimage hrun
    have hterms := triple_createReverseSwap_terms env lightning_amount_sat their_pubkey w trivial
    rw [hrun] at hterms
    have hlocktime := hbelow _ hterms.locktime
    exact ⟨hterms.isReverse, hterms.twoPaths hprim hkey hlocktime,
      hterms.takesPath hprim hkey hlocktime hpreimage⟩

end

section Sample

open Sample

attribute [local instance] Sample.deployment

/-- The signature and the key of the sample. -/
def sampleVerifier : Verifier := fun _ _ _ _ sig key =>
  sig = List.replicate 71 9 ∧ key = 2 :: List.replicate 32 4

theorem sampleVerifier_primitives : Primitives sampleVerifier where
  ripemd_length _ := List.length_replicate
  publicKey_length _ := by
    show (2 :: List.replicate 32 4 : Bytes).length = 33
    rfl
  signature_length _ _ _ _ _ := by
    show (List.replicate 71 9 : Bytes).length ≤ 73
    decide
  signature_valid _ _ _ _ _ := by
    show decide (_ ∧ _) = true
    exact decide_eq_true ⟨rfl, rfl⟩

/-- The first swap of the sample, and one the other way. -/
theorem lockup_spending_paths_sample :
    (∃ ref invoice prepay_invoice w', createNormalSwap env 50000 paymentHash (3 :: List.replicate 32 4)
        (runOf boot World.start) = .ok (ref, invoice, prepay_invoice) w' ∧
      TwoPaths (w'.heap ref) (3 :: List.replicate 32 4) (publicKey (w'.heap ref).privkey)) ∧
    ∃ ref w', createReverseSwap env 50000 (3 :: List.replicate 32 4) (runOf boot World.start) =
        .ok ref w' ∧
      TwoPaths (w'.heap ref) (publicKey (w'.heap ref).privkey) (3 :: List.replicate 32 4) := by
  have hheight : ∀ height ∈ env.localHeight, height + LOCKTIME_DELTA_REFUND < LOCKTIME_THRESHOLD := by
    rintro height ⟨rfl⟩
    decide
  have hnormal : raises (createNormalSwap env 50000 paymentHash (3 :: List.replicate 32 4))
      (runOf boot World.start) = none := by decide +kernel
  have hreverse : raises (createReverseSwap env 50000 (3 :: List.replicate 32 4))
      (runOf boot World.start) = none := by decide +kernel
  unfold raises at hnormal hreverse
  constructor
  · split at hnormal
    · next created w' hrun =>
      have hpaths := (lockup_spending_paths sampleVerifier_primitives env (by rfl) hheight 50000 _ w').1
        _ _ _ _ hrun
      exact ⟨_, _, _, _, hrun, hpaths.2.2.1⟩
    · cases hnormal
  · split at hreverse
    · next ref w' hrun =>
      have hpaths := (lockup_spending_paths sampleVerifier_primitives env (by rfl) hheight 50000 _ w').2
        _ (by rfl) hrun
      exact ⟨_, _, hrun, hpaths.2.1⟩
    · cases hreverse

end Sample

end SubswapProvider
