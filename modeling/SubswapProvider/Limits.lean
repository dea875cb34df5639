import SubswapProvider.Creating

/-!
# The limits of a swap

`_get_recv_amount` and `_get_send_amount` answer `None` for an amount outside the limits. Both
creations take the `None` along and store it, so what a client asks for is checked by nobody
(`only_within_limits_iff`).
-/

namespace SubswapProvider

open Deployment Effect

/-- No swap, hold invoice, preimage or callback is new. -/
structure AddsNothing (w w' : World) : Prop where
  swaps : ∀ k, w'.swaps.contains k = true → w.swaps.contains k = true
  holdInvoices : ∀ k, (w'.holdInvoices.get? k).isSome = true → (w.holdInvoices.get? k).isSome = true
  preimages : ∀ k, w'.preimages.contains k = true → w.preimages.contains k = true
  holdInvoiceCallbacks : ∀ k,
    w'.holdInvoiceCallbacks.contains k = true → w.holdInvoiceCallbacks.contains k = true
  lnwatcherCallbacks : ∀ address,
    w'.lnwatcherCallbacks.contains address = true → w.lnwatcherCallbacks.contains address = true

theorem AddsNothing.refl (w : World) : AddsNothing w w :=
  ⟨fun _ => id, fun _ => id, fun _ => id, fun _ => id, fun _ => id⟩

/-- A swap the limits allow: its on-chain amount is an integer of at least `least`. -/
structure Pairs.Allows (p : Pairs) (least : Option Int) (swap : SwapData) : Prop where
  amount : p.minAmount ≤ swap.lightningAmount ∧ swap.lightningAmount ≤ p.maxAmount
  onchain : ∃ x, swap.onchainAmount = some x ∧ ∀ l, least = some l → l ≤ x

/-- The same by the limits of the server. -/
def World.Allows (w : World) (least : Option Int) (swap : SwapData) : Prop :=
  ∃ p, w.pairs = some p ∧ p.Allows least swap

/-- A request that is answered without an error leaves a swap within the limits under its hash;
any other one adds nothing. -/
def OnlyWithinLimits (least : Option Int) (k : Hex) (x : PyM Response) (w : World) : Prop :=
  match x w with
  | .ok response w' =>
    if response.isError then AddsNothing w w'
    else ∃ swap, w'.swap? k = some swap ∧ w.Allows least swap
  | .error _ w' => AddsNothing w w'

theorem OnlyWithinLimits.final {least : Option Int} {k : Hex} {x : PyM Response} {w : World}
    (h : OnlyWithinLimits least k x w) :
    AddsNothing w (final x w) ∨ ∃ swap, (final x w).swap? k = some swap ∧ w.Allows least swap := by
  unfold OnlyWithinLimits at h
  unfold Effect.final
  cases hr : x w with
  | ok response s =>
    rw [hr] at h
    dsimp only at h
    split at h
    · exact .inl h
    · exact .inr h
  | error e s =>
    rw [hr] at h
    exact .inl h

/-! ## The amounts -/

section Amounts

variable {p : Pairs} {amount : Int}

/-- What is left of an amount once the fees of a normal swap are off. -/
def Pairs.net (p : Pairs) (amount : Int) : Int :=
  amount - (⌈p.percentage * amount / 100⌉ + p.lockupFee)

theorem Pairs.checkInvoiceAmount_iff {x : Int} :
    p.checkInvoiceAmount x = true ↔ p.minAmount ≤ x ∧ x ≤ p.maxAmount := by
  simp [Pairs.checkInvoiceAmount]

theorem Pairs.recvAmount_eq_some {x : Int} : p.recvAmount amount true = some x ↔
    (p.minAmount ≤ amount ∧ amount ≤ p.maxAmount) ∧ dustThreshold ≤ p.net amount ∧
      x = p.net amount := by
  unfold Pairs.recvAmount
  rw [if_pos rfl, ← Pairs.checkInvoiceAmount_iff]
  by_cases hcheck : p.checkInvoiceAmount amount = true
  · rw [if_pos hcheck]
    dsimp only
    show (if p.net amount < dustThreshold then none else some (p.net amount)) = some x ↔ _
    by_cases hdust : p.net amount < dustThreshold
    · rw [if_pos hdust]
      refine ⟨nofun, fun h => ?_⟩
      have := h.2.1
      omega
    · rw [if_neg hdust, Option.some_inj]
      refine ⟨fun h => ⟨hcheck, by omega, h.symm⟩, fun h => h.2.2.symm⟩
  · rw [if_neg hcheck]
    exact ⟨nofun, fun h => absurd h.1 hcheck⟩

theorem Pairs.sendAmount_isSome : (p.sendAmount amount false).isSome = true ↔
    p.minAmount ≤ amount ∧ amount ≤ p.maxAmount := by
  unfold Pairs.sendAmount
  rw [if_neg Bool.false_ne_true, ← Pairs.checkInvoiceAmount_iff]
  by_cases hcheck : p.checkInvoiceAmount amount = true
  · rw [if_pos hcheck]
    exact ⟨fun _ => hcheck, fun _ => rfl⟩
  · rw [if_neg hcheck]
    exact ⟨nofun, fun h => absurd h hcheck⟩

end Amounts

section

variable [Deployment]

/-! ## The swap that is stored -/

omit [Deployment] in
/-- A new object is filed unless there is one under its hash. -/
theorem swap?_storeNew {w : World} {swap : SwapData}
    (hlt : ∀ ref, w.swaps.get? (hex swap.paymentHash) = some ref → ref < w.nextRef) :
    Triple (· = w.allocSwap swap) (addOrReindexSwap w.nextRef)
      (fun _ s => s.swap? (hex swap.paymentHash)
        = some ((w.swap? (hex swap.paymentHash)).getD { swap with db := true }))
      (fun _ _ => False) := by
  rintro s rfl
  have hheap : (w.allocSwap swap).heap w.nextRef = swap := Function.update_self _ _ _
  unfold addOrReindexSwap
  rw [get_bind, hheap]
  dsimp only
  cases hget : w.swaps.get? (hex swap.paymentHash) with
  | none =>
    have hcontains : (w.allocSwap swap).swaps.contains (hex swap.paymentHash) = false := by
      show (w.swaps.get? _).isSome = false
      rw [hget]
      rfl
    rw [if_neg (by rw [hcontains]; exact Bool.false_ne_true)]
    show ((w.swaps.set (hex swap.paymentHash) w.nextRef).get? (hex swap.paymentHash)).map _
      = some (((w.swaps.get? (hex swap.paymentHash)).map w.heap).getD _)
    have hset : ((w.allocSwap swap).setSwap (hex swap.paymentHash) w.nextRef).heap w.nextRef
        = { (w.allocSwap swap).heap w.nextRef with db := true } := Function.update_self _ _ _
    rw [Dict.get?_set_self, hget, Option.map_some, hset, hheap]
    rfl
  | some ref =>
    have hcontains : (w.allocSwap swap).swaps.contains (hex swap.paymentHash) = true := by
      show (w.swaps.get? _).isSome = true
      rw [hget]
      rfl
    rw [if_pos hcontains]
    show (w.swaps.get? (hex swap.paymentHash)).map (Function.update w.heap w.nextRef swap)
      = some (((w.swaps.get? (hex swap.paymentHash)).map w.heap).getD _)
    rw [hget, Option.map_some, Option.map_some, Function.update_of_ne (Nat.ne_of_lt (hlt ref hget))]
    rfl

/-- The swap found under a hash after one with these amounts was to be stored there. -/
def StoredAs (w : World) (payment_hash : Bytes) (onchain_amount_sat : Option Int)
    (lightning_amount_sat : Int) (s : World) : Prop :=
  ∃ swap, swap.onchainAmount = onchain_amount_sat ∧ swap.lightningAmount = lightning_amount_sat ∧
    s.swap? (hex payment_hash) = some ((w.swap? (hex payment_hash)).getD swap)

variable (env : Env) {w : World}

theorem stored_addNormalSwap (hw : SwapsThroughout (fun _ => True) w) (redeem_script : Bytes)
    (locktime : Nat) (onchain_amount_sat : Option Int) (lightning_amount_sat : Int)
    (payment_hash our_privkey : Bytes) :
    Triple (· = w) (addNormalSwap env redeem_script locktime onchain_amount_sat lightning_amount_sat
        payment_hash our_privkey)
      (fun _ s => StoredAs w payment_hash onchain_amount_sat lightning_amount_sat s)
      (fun _ _ => True) := by
  have hkeep : ∀ {α : Type} {x : PyM α}, Keeps (SwapsSame w) x →
      Triple (SwapsSame w) x (fun _ => SwapsSame w) fun _ _ => True :=
    fun h => h.conseq (fun _ h => h) (fun _ _ h => h) fun _ _ _ => trivial
  refine Triple.pre (R := SwapsSame w) ?_ fun s hs => hs ▸ SwapsSame.refl w
  unfold addNormalSwap
  refine Triple.bind (hkeep (same_b11invoiceFromHash env w _ _ _ _)) fun invoice => ?_
  refine Triple.bind (hkeep (same_createPaymentInfo env w)) fun prepay_hash => ?_
  refine Triple.bind (hkeep (same_b11invoiceFromHash env w _ _ _ _)) fun prepay_invoice => ?_
  refine Triple.bind (hkeep (same_bundlePayments env w _ _)) fun _ => ?_
  refine triple_orRaise (fun _ _ => trivial) fun receive_address _ => ?_
  refine Triple.getBind fun s hs => ?_
  have hswap : ∀ k, s.swap? k = w.swap? k := by
    intro k
    unfold World.swap?
    rw [hs.swaps, hs.heap]
  let swap : SwapData := {
    isReverse := false, locktime := locktime, onchainAmount := onchain_amount_sat,
    lightningAmount := lightning_amount_sat, redeemScript := redeem_script, preimage := none,
    prepayHash := some prepay_hash, privkey := our_privkey,
    lockupAddress := scriptToP2wsh redeem_script, receiveAddress := receive_address,
    fundingTxid := none, spendingTxid := none, isRedeemed := false, paymentHash := payment_hash,
    db := false }
  refine Triple.modifyBind (R := (· = s.allocSwap swap)) (fun s' hs' => hs' ▸ rfl) ?_
  refine Triple.bind (R := fun _ s' => StoredAs w payment_hash onchain_amount_sat
    lightning_amount_sat s') ?_ fun _ => ?_
  · have hlt : ∀ ref, s.swaps.get? (hex swap.paymentHash) = some ref → ref < s.nextRef := by
      intro ref href
      rw [hs.swaps] at href
      rw [hs.nextRef]
      exact (hw.table _ ref href).1
    refine (swap?_storeNew hlt).conseq (fun _ h => h) (fun _ s' hs' => ?_) fun _ _ h => h.elim
    rw [hswap] at hs'
    exact ⟨{ swap with db := true }, rfl, rfl, hs'⟩
  · refine triple_raiseUnless (fun _ _ => trivial) fun _ => ?_
    exact Triple.modifyBind (fun _ h => h) (Triple.pure fun _ h => h)

theorem stored_createNormalSwap (hw : SwapsThroughout (fun _ => True) w) (lightning_amount_sat : Int)
    (payment_hash their_pubkey : Bytes) :
    Triple (· = w) (createNormalSwap env lightning_amount_sat payment_hash their_pubkey)
      (fun _ s => ∃ p, w.pairs = some p ∧
        StoredAs w payment_hash (p.recvAmount lightning_amount_sat true) lightning_amount_sat s)
      (fun _ _ => True) := by
  unfold createNormalSwap
  refine triple_pyAssert (fun _ _ => trivial) fun _ => ?_
  refine triple_orRaise (fun _ _ => trivial) fun height _ => ?_
  refine triple_getRecvAmount (fun _ _ => trivial) fun p => ?_
  refine Triple.at fun s hs => ?_
  obtain ⟨rfl, hp⟩ := hs
  refine Triple.bind (stored_addNormalSwap env hw _ _ _ _ _ _) fun created => ?_
  exact Triple.modifyBind (fun _ h => h) (Triple.pure fun _ h => ⟨p, hp, h⟩)

/-! ## The reverse swap -/

/-- The lockup address of a reverse swap made at a height. -/
def reverseLockupAddressAt (env : Env) (their_pubkey : Bytes) (height : Nat) : Address :=
  scriptToP2wsh (swapScript (ripemd (sha256 env.urandomPreimage)) (publicKey env.urandomPrivkey)
    (height + LOCKTIME_DELTA_REFUND) their_pubkey)

/-- Every call of `create_reverse_swap` is answered. -/
structure AnswersReverse (env : Env) (lightning_amount_sat : Int) (their_pubkey : Bytes) (w : World) :
    Prop where
  height : env.localHeight.isSome = true
  pairs : lightning_amount_sat = 0 ∨ w.pairs.isSome = true
  newaddr : env.newaddr.isSome = true
  imported : ∀ height, env.localHeight = some height →
    env.importdescriptors (reverseLockupAddressAt env their_pubkey height) = true

/-- What `_get_send_amount` comes to. -/
def sendAmountOf (lightning_amount_sat : Int) (w : World) : Option Int :=
  if lightning_amount_sat = 0 then none
  else w.pairs.bind fun p => p.sendAmount lightning_amount_sat false

omit [Deployment] in
theorem getSendAmount_run (lightning_amount_sat : Int) (w : World) :
    getSendAmount lightning_amount_sat false w =
      if lightning_amount_sat = 0 ∨ w.pairs.isSome = true then
        .ok (sendAmountOf lightning_amount_sat w) w
      else .error .TypeError w := by
  unfold getSendAmount sendAmountOf
  rw [get_bind]
  by_cases hzero : lightning_amount_sat = 0
  · rw [if_pos hzero, if_pos hzero, if_pos (.inl hzero)]
    rfl
  · rw [if_neg hzero, if_neg hzero]
    cases hp : w.pairs with
    | none =>
      rw [if_neg (by simp [hzero])]
      rfl
    | some p =>
      rw [if_pos (.inr rfl)]
      rfl

/-- **Spec of `create_reverse_swap`.** It returns when its calls are answered, and stores its swap
whatever `_get_send_amount` says. -/
theorem stored_createReverseSwap (hw : SwapsThroughout (fun _ => True) w) (lightning_amount_sat : Int)
    (their_pubkey : Bytes) :
    Triple (· = w) (createReverseSwap env lightning_amount_sat their_pubkey)
      (fun _ s => AnswersReverse env lightning_amount_sat their_pubkey w ∧
        StoredAs w (sha256 env.urandomPreimage) (sendAmountOf lightning_amount_sat w)
          lightning_amount_sat s)
      (fun _ s => s = w ∧ ¬ AnswersReverse env lightning_amount_sat their_pubkey w) := by
  by_cases hanswers : AnswersReverse env lightning_amount_sat their_pubkey w
  · obtain ⟨height, hheight⟩ := Option.isSome_iff_exists.mp hanswers.height
    obtain ⟨receive_address, hnewaddr⟩ := Option.isSome_iff_exists.mp hanswers.newaddr
    have himported := hanswers.imported height hheight
    rintro s rfl
    have hsend := getSendAmount_run lightning_amount_sat s
    rw [if_pos hanswers.pairs] at hsend
    unfold createReverseSwap
    rw [hheight, orRaise_some, pure_bind]
    dsimp only
    rw [bind_ok hsend]
    unfold addReverseSwap registerAddress
    unfold reverseLockupAddressAt at himported
    dsimp only
    rw [hnewaddr, orRaise_some, pure_bind, if_pos himported, pure_bind, get_bind, modify_bind]
    refine Triple.bind (P := (· = _)) (R := fun _ s' => AnswersReverse env lightning_amount_sat
      their_pubkey s ∧ StoredAs s (sha256 env.urandomPreimage) (sendAmountOf lightning_amount_sat s)
        lightning_amount_sat s') ?_ (fun _ => fun _ h => h) _ rfl
    refine (swap?_storeNew fun ref href => (hw.table _ ref href).1).conseq (fun _ h => h)
      (fun _ s' hs' => ⟨hanswers, _, ?_, ?_, hs'⟩) fun _ _ h => h.elim
    · rfl
    · rfl
  · refine Triple.conseq (S := fun _ _ => False) (F := fun _ s => s = w) ?_ (fun _ h => h)
      (fun _ _ h => h.elim) fun _ _ hs => ⟨hs, hanswers⟩
    unfold createReverseSwap
    refine triple_orRaise (fun _ hs => hs) fun height hheight => ?_
    rintro s rfl
    have hsend := getSendAmount_run lightning_amount_sat s
    dsimp only
    by_cases hpairs : lightning_amount_sat = 0 ∨ s.pairs.isSome = true
    · rw [if_pos hpairs] at hsend
      rw [bind_ok hsend]
      unfold addReverseSwap registerAddress
      refine triple_orRaise (P := (· = s)) (fun _ hs => hs) (fun receive_address hnewaddr => ?_) s rfl
      refine triple_raiseUnless (fun _ hs => hs) fun himported => ?_
      refine absurd ⟨by rw [hheight]; rfl, hpairs, by rw [hnewaddr]; rfl, ?_⟩ hanswers
      intro height' hheight'
      rw [hheight] at hheight'
      cases hheight'
      exact himported
    · rw [if_neg hpairs] at hsend
      rw [bind_error hsend]

/-! ## The requests -/

/-- A `createswap` gets to storing the main invoice. -/
structure Admitted (env : Env) (type pairId : String) (invoiceAmount : Int)
    (preimageHash claimPublicKey : Bytes) (w : World) : Prop where
  pairId : pairId = "BTC/BTC"
  type : type = "reversesubmarine"
  hashLength : preimageHash.length = 32
  keyLength : claimPublicKey.length = 33
  capacity : invoiceAmount ≤ numSatsCanReceive env
  balance : ∃ balance, balanceSat env = some balance ∧ invoiceAmount ≤ balance
  saves : SavesInvoice env invoiceAmount preimageHash w

/-- **Spec of `server_create_swap`.** -/
theorem triple_serverCreateSwapResponse (hw : SwapsThroughout (fun _ => True) w)
    (type pairId : String) (invoiceAmount : Int) (preimageHash claimPublicKey : Bytes) :
    Triple (· = w)
      (serverCreateSwapResponse env type pairId invoiceAmount preimageHash claimPublicKey)
      (fun response s =>
        (response.isError = true ∧ s = w ∧
          ¬ Admitted env type pairId invoiceAmount preimageHash claimPublicKey w) ∨
        (response.isError = false ∧
          Admitted env type pairId invoiceAmount preimageHash claimPublicKey w ∧
          (FreshHashes preimageHash (sha256 env.urandomPreimage) w →
            AnswersAll env preimageHash claimPublicKey w) ∧
          ∃ p, w.pairs = some p ∧
            StoredAs w preimageHash (p.recvAmount invoiceAmount true) invoiceAmount s))
      (fun _ s =>
        (s = w ∧ ¬ Admitted env type pairId invoiceAmount preimageHash claimPublicKey w) ∨
        (Admitted env type pairId invoiceAmount preimageHash claimPublicKey w ∧
          ¬ AnswersAll env preimageHash claimPublicKey w ∧
          (s.getHoldInvoice preimageHash).isSome = true)) := by
  unfold serverCreateSwapResponse
  by_cases hpair : pairId = "BTC/BTC"
  swap
  · rw [decide_eq_false hpair]
    exact fun s hs => .inl ⟨hs, fun h => hpair h.pairId⟩
  rw [decide_eq_true hpair, pyAssert_true, pure_bind]
  by_cases htype : type = "reversesubmarine"
  swap
  · rw [if_neg htype]
    split
    · exact fun s hs => .inl ⟨rfl, hs, fun h => htype h.type⟩
    · exact fun s hs => .inl ⟨rfl, hs, fun h => htype h.type⟩
  rw [if_pos htype]
  by_cases hhash : preimageHash.length = 32
  swap
  · rw [decide_eq_false hhash]
    exact fun s hs => .inl ⟨hs, fun h => hhash h.hashLength⟩
  rw [decide_eq_true hhash, pyAssert_true, pure_bind]
  by_cases hkey : claimPublicKey.length = 33
  swap
  · rw [decide_eq_false hkey]
    exact fun s hs => .inl ⟨hs, fun h => hkey h.keyLength⟩
  rw [decide_eq_true hkey, pyAssert_true, pure_bind]
  by_cases hcapacity : numSatsCanReceive env < invoiceAmount
  · rw [if_pos hcapacity]
    refine fun s hs => .inl ⟨rfl, hs, fun h => ?_⟩
    have := h.capacity
    omega
  rw [if_neg hcapacity]
  cases hbalance : balanceSat env with
  | none =>
    refine fun s hs => .inl ⟨hs, fun h => ?_⟩
    obtain ⟨balance, hsome, -⟩ := h.balance
    rw [hbalance] at hsome
    cases hsome
  | some balance =>
    rw [orRaise_some, pure_bind]
    by_cases henough : balance < invoiceAmount
    · rw [if_pos henough]
      refine fun s hs => .inl ⟨rfl, hs, fun h => ?_⟩
      obtain ⟨balance', hsome, hle⟩ := h.balance
      rw [hbalance] at hsome
      cases hsome
      omega
    rw [if_neg henough]
    have hadmitted : Admitted env type pairId invoiceAmount preimageHash claimPublicKey w ↔
        SavesInvoice env invoiceAmount preimageHash w :=
      ⟨fun h => h.saves,
        fun h => ⟨hpair, htype, hhash, hkey, by omega, ⟨balance, hbalance, by omega⟩, h⟩⟩
    have hcreate := (triple_createNormalSwap env invoiceAmount preimageHash claimPublicKey w).and
      (stored_createNormalSwap env hw invoiceAmount preimageHash claimPublicKey)
    refine Triple.bind (R := fun _ s =>
      (SavesInvoice env invoiceAmount preimageHash w ∧
        (FreshHashes preimageHash (sha256 env.urandomPreimage) w →
          AnswersAll env preimageHash claimPublicKey w)) ∧
      ∃ p, w.pairs = some p ∧
        StoredAs w preimageHash (p.recvAmount invoiceAmount true) invoiceAmount s)
      (hcreate.conseq (fun _ h => ⟨h, h⟩) (fun _ _ h => h) ?_) fun created => ?_
    · rintro e s ⟨⟨hs, hnot⟩ | ⟨hsaves, hnot, hstored⟩, -⟩
      · exact .inl ⟨hs, fun h => hnot (hadmitted.mp h)⟩
      · exact .inr ⟨hadmitted.mpr hsaves, hnot, hstored⟩
    · exact fun s hs => .inr ⟨rfl, hadmitted.mpr hs.1.1, hs.1.2, hs.2⟩

/-- A `createnormalswap` gets to storing its swap. -/
structure AdmittedReverse (env : Env) (invoiceAmount : Int) (refundPublicKey : Bytes) (w : World) :
    Prop where
  keyLength : refundPublicKey.length = 33
  capacity : invoiceAmount ≤ numSatsCanSend env
  answers : AnswersReverse env invoiceAmount refundPublicKey w

/-- **Spec of `server_create_normal_swap`.** -/
theorem triple_serverCreateNormalSwapResponse (hw : SwapsThroughout (fun _ => True) w)
    (invoiceAmount : Int) (refundPublicKey : Bytes) :
    Triple (· = w) (serverCreateNormalSwapResponse env invoiceAmount refundPublicKey)
      (fun response s =>
        (response.isError = true ∧ s = w ∧ ¬ AdmittedReverse env invoiceAmount refundPublicKey w) ∨
        (response.isError = false ∧ AdmittedReverse env invoiceAmount refundPublicKey w ∧
          StoredAs w (sha256 env.urandomPreimage) (sendAmountOf invoiceAmount w) invoiceAmount s))
      (fun _ s => s = w ∧ ¬ AdmittedReverse env invoiceAmount refundPublicKey w) := by
  unfold serverCreateNormalSwapResponse
  by_cases hkey : refundPublicKey.length = 33
  swap
  · rw [decide_eq_false hkey]
    exact fun s hs => ⟨hs, fun h => hkey h.keyLength⟩
  rw [decide_eq_true hkey, pyAssert_true, pure_bind]
  by_cases hcapacity : numSatsCanSend env < invoiceAmount
  · rw [if_pos hcapacity]
    refine fun s hs => .inl ⟨rfl, hs, fun h => ?_⟩
    have := h.capacity
    omega
  rw [if_neg hcapacity]
  refine Triple.bind (R := fun _ s => AnswersReverse env invoiceAmount refundPublicKey w ∧
    StoredAs w (sha256 env.urandomPreimage) (sendAmountOf invoiceAmount w) invoiceAmount s)
    ((stored_createReverseSwap env hw invoiceAmount refundPublicKey).conseq (fun _ h => h)
      (fun _ _ h => h) fun _ s hs => ⟨hs.1, fun h => hs.2 h.answers⟩) fun ref => ?_
  exact fun s hs => .inr ⟨rfl, ⟨hkey, by omega, hs.1⟩, hs.2⟩

/-- The limits are met by what is found under a hash: the swap that is stored there already, or one of
the amount asked for. -/
def LimitsMet (w : World) (least : Option Int) (k : Hex) (asked : Prop) : Prop :=
  match w.swap? k with
  | some swap => w.Allows least swap
  | none => asked

omit [Deployment] in
theorem StoredAs.allows_iff {s : World} {payment_hash : Bytes} {onchain_amount_sat : Option Int}
    {lightning_amount_sat : Int} {least : Option Int}
    (h : StoredAs w payment_hash onchain_amount_sat lightning_amount_sat s) :
    (∃ swap, s.swap? (hex payment_hash) = some swap ∧ w.Allows least swap) ↔
      LimitsMet w least (hex payment_hash) (∃ p, w.pairs = some p ∧
        (p.minAmount ≤ lightning_amount_sat ∧ lightning_amount_sat ≤ p.maxAmount) ∧
        ∃ x, onchain_amount_sat = some x ∧ ∀ l, least = some l → l ≤ x) := by
  obtain ⟨swap, rfl, rfl, hswap⟩ := h
  unfold LimitsMet
  rw [hswap]
  cases w.swap? (hex payment_hash) with
  | some old =>
    constructor
    · rintro ⟨swap', hswap', hallows⟩
      cases hswap'
      exact hallows
    · exact fun hallows => ⟨old, rfl, hallows⟩
  | none =>
    constructor
    · rintro ⟨swap', hswap', p, hp, hallows⟩
      cases hswap'
      exact ⟨p, hp, hallows.amount, hallows.onchain⟩
    · rintro ⟨p, hp, hamount, honchain⟩
      exact ⟨swap, rfl, p, hp, hamount, honchain⟩

/-- The amount of a `createswap` is within the limits, also when the fees are off. -/
def WithinLimits (w : World) (invoiceAmount : Int) : Prop :=
  ∃ p, w.pairs = some p ∧ (p.minAmount ≤ invoiceAmount ∧ invoiceAmount ≤ p.maxAmount) ∧
    dustThreshold ≤ p.net invoiceAmount

/-- The amount of a `createnormalswap` is within the limits. -/
def WithinLimitsReverse (w : World) (invoiceAmount : Int) : Prop :=
  invoiceAmount ≠ 0 ∧
    ∃ p, w.pairs = some p ∧ p.minAmount ≤ invoiceAmount ∧ invoiceAmount ≤ p.maxAmount

omit [Deployment] in
theorem LimitsMet.congr {least : Option Int} {k : Hex} {asked asked' : Prop}
    (h : asked ↔ asked') : LimitsMet w least k asked ↔ LimitsMet w least k asked' := by
  rw [propext h]

omit [Deployment] in
theorem withinLimits_iff {p : Pairs} {invoiceAmount : Int} (hp : w.pairs = some p) :
    (∃ p', w.pairs = some p' ∧ (p'.minAmount ≤ invoiceAmount ∧ invoiceAmount ≤ p'.maxAmount) ∧
      ∃ x, p.recvAmount invoiceAmount true = some x ∧ ∀ l, some dustThreshold = some l → l ≤ x) ↔
    WithinLimits w invoiceAmount := by
  constructor
  · rintro ⟨p', hp', hamount, x, hx, -⟩
    exact ⟨p, hp, (Pairs.recvAmount_eq_some.mp hx).1, (Pairs.recvAmount_eq_some.mp hx).2.1⟩
  · rintro ⟨p', hp', hamount, hdust⟩
    cases hp.symm.trans hp'
    refine ⟨p, hp, hamount, p.net invoiceAmount, ?_, fun l hl => ?_⟩
    · exact Pairs.recvAmount_eq_some.mpr ⟨hamount, hdust, rfl⟩
    · cases hl
      exact hdust

omit [Deployment] in
theorem withinLimitsReverse_iff {invoiceAmount : Int} :
    (∃ p, w.pairs = some p ∧ (p.minAmount ≤ invoiceAmount ∧ invoiceAmount ≤ p.maxAmount) ∧
      ∃ x, sendAmountOf invoiceAmount w = some x ∧ ∀ l, (none : Option Int) = some l → l ≤ x) ↔
    WithinLimitsReverse w invoiceAmount := by
  unfold sendAmountOf
  constructor
  · rintro ⟨p, hp, hamount, x, hx, -⟩
    refine ⟨fun hzero => ?_, p, hp, hamount⟩
    rw [if_pos hzero] at hx
    cases hx
  · rintro ⟨hzero, p, hp, hamount⟩
    obtain ⟨x, hx⟩ := Option.isSome_iff_exists.mp (Pairs.sendAmount_isSome.mpr hamount)
    refine ⟨p, hp, hamount, x, ?_, nofun⟩
    rw [if_neg hzero, hp]
    exact hx

/-- A `createswap` is turned down before it stores anything, or nothing goes wrong behind that and the
limits are met. -/
def CreateswapMeets (env : Env) (type pairId : String) (invoiceAmount : Int)
    (preimageHash claimPublicKey : Bytes) (w : World) : Prop :=
  ¬ Admitted env type pairId invoiceAmount preimageHash claimPublicKey w ∨
    (AnswersAll env preimageHash claimPublicKey w ∧
      LimitsMet w (some dustThreshold) (hex preimageHash) (WithinLimits w invoiceAmount))

/-- **Only swaps within the limits are created** exactly where the client asks for one, or nothing is
stored at all. Nobody checks it. -/
theorem only_within_limits_iff {ok : World → Action → Prop} (h : Reachable ok w) (env : Env)
    (type pairId : String) (invoiceAmount : Int)
    (preimageHash claimPublicKey refundPublicKey : Bytes) :
    ((CreateswapMeets env type pairId invoiceAmount preimageHash claimPublicKey w →
        OnlyWithinLimits (some dustThreshold) (hex preimageHash)
          (serverCreateSwapResponse env type pairId invoiceAmount preimageHash claimPublicKey) w) ∧
      (FreshHashes preimageHash (sha256 env.urandomPreimage) w →
        OnlyWithinLimits (some dustThreshold) (hex preimageHash)
          (serverCreateSwapResponse env type pairId invoiceAmount preimageHash claimPublicKey) w →
        CreateswapMeets env type pairId invoiceAmount preimageHash claimPublicKey w)) ∧
    (OnlyWithinLimits none (hex (sha256 env.urandomPreimage))
        (serverCreateNormalSwapResponse env invoiceAmount refundPublicKey) w ↔
      ¬ AdmittedReverse env invoiceAmount refundPublicKey w ∨
        LimitsMet w none (hex (sha256 env.urandomPreimage)) (WithinLimitsReverse w invoiceAmount)) := by
  have hw := swaps_filed h
  have hcreate := triple_serverCreateSwapResponse env hw type pairId invoiceAmount
    preimageHash claimPublicKey w rfl
  have hreverse := triple_serverCreateNormalSwapResponse env hw invoiceAmount
    refundPublicKey w rfl
  unfold OnlyWithinLimits
  refine ⟨?_, ?_⟩
  · cases hr : serverCreateSwapResponse env type pairId invoiceAmount preimageHash claimPublicKey w with
    | ok response s =>
      rw [hr] at hcreate
      dsimp only
      rcases hcreate with ⟨herror, rfl, hnot⟩ | ⟨herror, hadmitted, hanswers, p, hp, hstored⟩
      · rw [if_pos herror]
        exact ⟨fun _ => .refl s, fun _ _ => .inl hnot⟩
      · rw [if_neg (by rw [herror]; exact Bool.false_ne_true),
          hstored.allows_iff.trans (LimitsMet.congr (withinLimits_iff hp))]
        refine ⟨fun hmeets => ?_, fun hfresh hmet => .inr ⟨hanswers hfresh, hmet⟩⟩
        rcases hmeets with hnot | ⟨-, hmet⟩
        · exact absurd hadmitted hnot
        · exact hmet
    | error e s =>
      rw [hr] at hcreate
      dsimp only
      rcases hcreate with ⟨rfl, hnot⟩ | ⟨hadmitted, hnot, hstored⟩
      · exact ⟨fun _ => .refl s, fun _ _ => .inl hnot⟩
      · refine ⟨fun hmeets => ?_, fun hfresh hadds => ?_⟩
        · rcases hmeets with hnot' | ⟨hanswers, -⟩
          · exact absurd hadmitted hnot'
          · exact absurd hanswers hnot
        · -- the main invoice is new
          have hold := hadds.holdInvoices _ hstored
          rw [show w.holdInvoices.get? (hex preimageHash) = none from hfresh.invoice] at hold
          cases hold
  · cases hr : serverCreateNormalSwapResponse env invoiceAmount refundPublicKey w with
    | ok response s =>
      rw [hr] at hreverse
      dsimp only
      rcases hreverse with ⟨herror, rfl, hnot⟩ | ⟨herror, hadmitted, hstored⟩
      · rw [if_pos herror]
        exact ⟨fun _ => .inl hnot, fun _ => .refl s⟩
      · rw [if_neg (by rw [herror]; exact Bool.false_ne_true),
          hstored.allows_iff.trans (LimitsMet.congr withinLimitsReverse_iff)]
        exact ⟨.inr, fun h => h.resolve_left (absurd hadmitted)⟩
    | error e s =>
      rw [hr] at hreverse
      obtain ⟨rfl, hnot⟩ := hreverse
      exact ⟨fun _ => .inl hnot, fun _ => .refl s⟩

end

section Sample

open Sample

attribute [local instance] Sample.deployment

/-- A `createnormalswap` of 50000 sat. -/
theorem only_within_limits_50000 :
    OnlyWithinLimits none (hex (sha256 Sample.env.urandomPreimage))
      (serverCreateNormalSwapResponse Sample.env 50000 (2 :: List.replicate 32 4))
      (runOf boot World.start) :=
  (only_within_limits_iff (reachable_runOf boot) Sample.env "" "" 50000 [] []
    (2 :: List.replicate 32 4)).2.mpr (.inr (by
      have hpairs : (runOf boot World.start).pairs.any
          (fun p => p.minAmount ≤ 50000 ∧ 50000 ≤ p.maxAmount) = true := by decide +kernel
      have hnone : (runOf boot World.start).swap? (hex (sha256 Sample.env.urandomPreimage)) = none := by
        decide +kernel
      obtain ⟨p, hp, hamount⟩ := (Option.any_eq_true _ _).mp hpairs
      unfold LimitsMet
      rw [hnone]
      exact ⟨by decide, p, hp, of_decide_eq_true hamount⟩))

/-- A `createswap` of 1000 sat is answered like any other, and a swap without an on-chain amount is
stored. -/
theorem stores_swap_below_limits :
    ∃ w, Reachable (fun _ _ => True) w ∧
      ¬ OnlyWithinLimits (some dustThreshold) (hex paymentHash)
        (serverCreateSwapResponse Sample.env "reversesubmarine" "BTC/BTC" 1000 paymentHash
          (3 :: List.replicate 32 4)) w := by
  refine ⟨runOf boot World.start, reachable_runOf _, fun h => ?_⟩
  have hamount : ((final (serverCreateSwapResponse Sample.env "reversesubmarine" "BTC/BTC" 1000
      paymentHash (3 :: List.replicate 32 4)) (runOf boot World.start)).swap? (hex paymentHash)).map
        SwapData.onchainAmount = some none := by decide +kernel
  rcases h.final with hadds | ⟨swap, hswap, p, -, hallows⟩
  · have hnew := hadds.swaps (hex paymentHash)
    revert hnew
    decide +kernel
  · rw [hswap] at hamount
    obtain ⟨x, hx, -⟩ := hallows.onchain
    rw [Option.map_some, hx] at hamount
    cases hamount

end Sample

end SubswapProvider
