import SubswapProvider.Turns

/-!
# One swap in the way of another

`callback_handler` goes through the registered callbacks with one exception handler around the whole
loop, so an entry that raises ends the pass for every entry behind it. What the loop does with an entry
can be told from the tables at the start of the pass (`World.turn`, `World.Passes`, `World.Calls`), once
it is known what the entries in front of it have used up: which prepay invoices they have redeemed, and
how many writes they have made (`Progress.after`). A turn leaves the entries behind it otherwise as they
were (`Met.turn`), and so the tables say which callbacks a pass invokes (`invoked_iff`):

* one swap blocks another unless each entry in front of it is passed
  (`callbackHandler_unblocked_iff`),
* a swap whose prepay invoice has been settled already is not taken up again
  (`interrupted_resumes_iff`): the branch for a prepay invoice that is not `FUNDED` only waits.
-/

namespace SubswapProvider

open Effect

section

variable [Deployment] {env : Env} {w : World} {k : Hex}

/-! ## The entries of the table -/

/-- The prepay invoice of the payment hash has been redeemed. -/
def Progress.Uses (p : Progress) (payment_hash : Bytes) : Prop :=
  payment_hash ∈ p.redeemed.map (·.paymentHash)

instance (p : Progress) (payment_hash : Bytes) : Decidable (p.Uses payment_hash) :=
  inferInstanceAs (Decidable (_ ∈ _))

/-- What the loop makes of an entry. -/
inductive Turn
  /-- Its invoice is gone. -/
  | removed
  /-- The invoice, or its prepay invoice, is not `FUNDED`. -/
  | waits
  /-- The prepay invoice is gone. -/
  | raises
  /-- There is no prepay invoice. -/
  | calls (invoice : HoldInvoice)
  | redeems (invoice prepay : HoldInvoice)

/-- What the loop makes of the entry under `k`, going by the tables of `w`, after what has been used up
since. -/
def World.turn (w : World) (p : Progress) (k : Hex) : Turn :=
  match w.holdInvoices.get? k with
  | none => .removed
  | some invoice =>
    if invoice.fundingStatus = .funded ∧ ¬ p.Uses invoice.paymentHash then
      match invoice.associatedInvoice with
      | none => .calls invoice
      | some h =>
        match w.getHoldInvoice h with
        | none => .raises
        | some prepay =>
          if prepay.fundingStatus = .funded ∧ ¬ p.Uses h then .redeems invoice prepay else .waits
    else .waits

/-- The callback of the swap under `k` has been called. -/
def Progress.call (env : Env) (w : World) (k : Hex) (p : Progress) : Progress :=
  { p with writes := p.writes + w.callWrites env k }

/-- What has been used up after the entry under `k`. -/
def Progress.after (env : Env) (w : World) (k : Hex) (p : Progress) : Progress :=
  match w.turn p k with
  | .calls _ => p.call env w k
  | .redeems _ prepay => (p.redeem prepay).call env w k
  | _ => p

/-- The loop gets past the entry under `k`. -/
def World.Passes (env : Env) (w : World) (p : Progress) (k : Hex) : Prop :=
  match w.turn p k with
  | .raises => False
  | .calls _ => w.CanCall env p k
  | .redeems _ prepay => w.CanRedeem env p prepay ∧ w.CanCall env (p.redeem prepay) k
  | _ => True

/-- The turn of the entry under `k` comes to call its callback. -/
def World.Calls (env : Env) (w : World) (p : Progress) (k : Hex) : Prop :=
  match w.turn p k with
  | .calls _ => True
  | .redeems _ prepay => w.CanRedeem env p prepay
  | _ => False

/-- The turn of a registered callback. -/
def callbackTurn (env : Env) (item : Hex × HoldInvoiceCallback) : PyM Unit :=
  handleCallback env item.1 (callOf env item.2)

/-! ## What a turn says -/

section

variable {P : Event → Prop}

theorem says_settleInvoice (hanswer : ∀ r x, P (.answer r (.resolve x)))
    (hrefused : ∀ r x, P (.refused r (.resolve x))) (hsettled : ∀ h x, P (.settled h x))
    (invoice : HoldInvoice) (preimage : Option Bytes) (w₀ : World) :
    Keeps (SaysOnly P w₀) (settleInvoice invoice preimage) := by
  unfold settleInvoice
  split
  · exact Keeps.throw
  · refine Keeps.bind (keeps_pyAssert _) fun _ => Keeps.bind (Keeps.ite Keeps.pure Keeps.throw)
      fun _ => Keeps.bind ?_ fun _ => Keeps.bind (Keeps.modify fun s hs => hs.same rfl) fun _ =>
      says_emit (hsettled _ _) w₀
    refine Keeps.forM fun htlc _ => Keeps.ite ?_ Keeps.pure
    exact says_settleHtlc (fun r => hanswer r _) (fun r => hrefused r _) _ _ w₀

omit [Deployment] in
theorem says_updateInvoice (payment_hash : Bytes) (w₀ : World) :
    Keeps (SaysOnly P w₀) (updateInvoice env payment_hash) := by
  unfold updateInvoice
  refine Keeps.get fun w => ?_
  split
  · exact Keeps.throw
  · refine Keeps.bind (Keeps.modify fun s hs => hs.same ?_) fun _ =>
      Keeps.bind (Keeps.modify fun s hs => hs.same ?_) fun _ => says_quiet (quiet_dbWrite env) w₀
    · unfold World.popHoldInvoice
      split
      · rfl
      · rfl
    · unfold World.setHoldInvoice
      dsimp only
      split
      · rfl
      · rfl

theorem says_redeemPrepay (hanswer : ∀ r x, P (.answer r (.resolve x)))
    (hrefused : ∀ r x, P (.refused r (.resolve x))) (hsettled : ∀ h x, P (.settled h x))
    (prepay : HoldInvoice) (w₀ : World) : Keeps (SaysOnly P w₀) (redeemPrepay env prepay) :=
  Keeps.bind (keeps_getPreimage _) fun preimage =>
    Keeps.bind (says_settleInvoice hanswer hrefused hsettled prepay preimage w₀) fun _ =>
    says_updateInvoice _ w₀

omit [Deployment] in
theorem says_holdInvoiceCallback (hcreate : ∀ h swap t, P (.createFundingTx h swap t))
    (hsend : ∀ swap stored tx, P (.sendpsbt swap stored tx)) (payment_hash : Bytes) (w₀ : World) :
    Keeps (SaysOnly P w₀) (holdInvoiceCallback env payment_hash) := by
  unfold holdInvoiceCallback
  refine Keeps.get fun w => ?_
  split
  · exact Keeps.pure
  · next ref _ =>
    refine Keeps.ite (Keeps.bind ?_ fun tx => Keeps.tryCatch ?_ fun _ =>
      says_quiet (fun w₀ => quiet_failSwap env w₀ ref) w₀) Keeps.pure
    · unfold createFundingTx
      exact Keeps.get fun _ => Keeps.bind (says_emit (hcreate _ _ _) w₀) fun _ =>
        Keeps.bind (keeps_orRaise _ _) fun _ => keeps_createTransaction _ _
    · unfold broadcastFundingTx
      exact Keeps.bind (Keeps.modify fun s hs => hs.same (World.assign_trace ..)) fun _ =>
        Keeps.get fun _ => Keeps.bind (says_emit (hsend _ _ _) w₀) fun _ =>
        Keeps.ite Keeps.pure Keeps.throw

end

/-! ## What a turn comes to -/

/-- What the source does in a turn of each kind. -/
def Turn.run (env : Env) (item : Hex × HoldInvoiceCallback) : Turn → PyM Unit
  | .removed => do
    let w ← get
    if w.holdInvoiceCallbacks.contains item.1 then unregisterHoldInvoiceCallback item.1
    else throw .KeyError
  | .waits => pure ()
  | .raises => throw .AttributeError
  | .calls invoice => invokeCallback (callOf env item.2) invoice
  | .redeems invoice prepay => do
    redeemPrepay env prepay
    invokeCallback (callOf env item.2) invoice

omit [Deployment] in
theorem Progress.not_uses_none (payment_hash : Bytes) : ¬ Progress.none.Uses payment_hash :=
  List.not_mem_nil

/-- **The table says what a turn does** that is taken from it. -/
theorem callbackTurn_run (env : Env) (item : Hex × HoldInvoiceCallback) (w : World) :
    callbackTurn env item w = (w.turn .none item.1).run env item w := by
  unfold callbackTurn handleCallback World.turn
  rw [get_bind]
  cases w.holdInvoices.get? item.1 with
  | none => rfl
  | some invoice =>
    dsimp only
    by_cases hfunded : invoice.fundingStatus = .funded
    · rw [if_pos hfunded, if_pos ⟨hfunded, Progress.not_uses_none _⟩]
      cases invoice.associatedInvoice with
      | none => rfl
      | some h =>
        dsimp only
        cases hstored : w.getHoldInvoice h with
        | none => rfl
        | some prepay =>
          dsimp only
          by_cases hstatus : prepay.fundingStatus = .funded
          · have hh : prepay.paymentHash = h := hex_inj.mp (HoldInvoices.hex_paymentHash hstored)
            subst hh
            rw [if_pos hstatus, if_pos ⟨hstatus, Progress.not_uses_none _⟩]
            unfold Turn.run redeemPrepay
            simp only [bind_assoc]
          · rw [if_neg hstatus, if_neg fun hno => hstatus hno.1]
            rfl
    · rw [if_neg hfunded, if_neg fun hno => hfunded hno.1]
      rfl

omit [Deployment] in
/-- What the invoices of a turn are. -/
theorem World.turn_invoice {p : Progress} {invoice : HoldInvoice}
    (h : w.turn p k = .calls invoice ∨ ∃ prepay, w.turn p k = .redeems invoice prepay) :
    hex invoice.paymentHash = k := by
  unfold World.turn at h
  cases hget : w.holdInvoices.get? k with
  | none =>
    rw [hget] at h
    rcases h with h | ⟨prepay, h⟩ <;> cases h
  | some inv =>
    have hk : hex inv.paymentHash = k := HoldInvoices.hex_paymentHash hget
    rw [hget] at h
    dsimp only at h
    rcases h with h | ⟨prepay, h⟩
    · split at h
      · split at h
        · cases h
          exact hk
        · split at h
          · cases h
          · split at h <;> cases h
      · cases h
    · split at h
      · split at h
        · cases h
        · split at h
          · cases h
          · split at h
            · cases h
              exact hk
            · cases h
      · cases h

omit [Deployment] in
theorem World.turn_prepay {p : Progress} {invoice prepay : HoldInvoice}
    (h : w.turn p k = .redeems invoice prepay) :
    w.getHoldInvoice prepay.paymentHash = some prepay ∧ ¬ p.Uses prepay.paymentHash := by
  unfold World.turn at h
  split at h
  · cases h
  · split at h
    · split at h
      · cases h
      · next payment_hash _ =>
        split at h
        · cases h
        · next stored hstored =>
          split at h
          · next hstatus =>
            cases h
            have hh : prepay.paymentHash = payment_hash :=
              hex_inj.mp (HoldInvoices.hex_paymentHash hstored)
            rw [hh]
            exact ⟨hstored, hstatus.2⟩
          · cases h
    · cases h

/-! ## The turns of a pass -/

/-- What the loop meets behind some entries of a pass that has begun in `w`: these have used up `p`, and
the tables are otherwise as they were. `keys` are those of the entries that are left. -/
structure Met (w : World) (p : Progress) (keys : List Hex) (s : World) : Prop where
  nodup : keys.Nodup
  registered : ∀ k ∈ keys, s.holdInvoiceCallbacks.contains k = true
  others : ∀ k, (∀ inv ∈ p.redeemed, hex inv.paymentHash ≠ k) →
    s.holdInvoices.get? k = w.holdInvoices.get? k
  redeemed : ∀ inv ∈ p.redeemed, (w.getHoldInvoice inv.paymentHash).isSome = true ∧
    ∃ inv', s.getHoldInvoice inv.paymentHash = some inv' ∧ inv'.fundingStatus = .settled
  preimages : s.preimages = w.preimages
  running : s.running = w.running
  swaps : ∀ k ∈ keys, s.swap? k = w.swap? k
  stored : s.SwapsStored
  calls : s.db.calls = w.db.calls + p.writes
  answerable : w.Answerable p.htlcs
  answered : ∀ r, s.Answered r ↔ r ∈ acceptedRequests p.htlcs ∨ w.Answered r

namespace Met

variable {s : World} {p : Progress} {keys : List Hex}

omit [Deployment] in
theorem start (h : w.SwapsStored) : Met w .none (w.holdInvoiceCallbacks.items.map Prod.fst) w where
  nodup := w.holdInvoiceCallbacks.nodup
  registered k hk := by
    obtain ⟨item, hitem, rfl⟩ := List.mem_map.mp hk
    rw [Dict.contains_iff]
    exact ⟨item.2, Dict.get?_of_mem hitem⟩
  others _ _ := rfl
  redeemed inv hinv := by cases hinv
  preimages := rfl
  running := rfl
  swaps _ _ := rfl
  stored := h
  calls := rfl
  answerable := .nil w
  answered r := by
    refine ⟨.inr, ?_⟩
    rintro (hr | hr)
    · cases hr
    · exact hr

/-! ### What the loop meets is told by the tables -/

omit [Deployment] in
/-- An invoice that has been redeemed is settled; any other is as it was. -/
theorem getHoldInvoice (h : Met w p keys s) (payment_hash : Bytes) :
    (p.Uses payment_hash ∧ (w.getHoldInvoice payment_hash).isSome = true ∧
      ∃ inv, s.getHoldInvoice payment_hash = some inv ∧ inv.fundingStatus = .settled) ∨
    (¬ p.Uses payment_hash ∧ s.getHoldInvoice payment_hash = w.getHoldInvoice payment_hash) := by
  by_cases huses : p.Uses payment_hash
  · obtain ⟨inv, hinv, rfl⟩ := List.mem_map.mp huses
    exact .inl ⟨huses, h.redeemed inv hinv⟩
  · refine .inr ⟨huses, h.others _ fun inv hinv heq => huses ?_⟩
    exact List.mem_map.mpr ⟨inv, hinv, hex_inj.mp heq⟩

omit [Deployment] in
theorem turn (h : Met w p keys s) (k : Hex) : s.turn .none k = w.turn p k := by
  unfold World.turn
  cases hget : w.holdInvoices.get? k with
  | none =>
    have hnone : s.holdInvoices.get? k = none := by
      rw [← hget]
      refine h.others k ?_
      rintro inv hinv rfl
      have hstored := (h.redeemed inv hinv).1
      unfold World.getHoldInvoice at hstored
      rw [hget] at hstored
      cases hstored
    rw [hnone]
  | some invoice =>
    obtain rfl : hex invoice.paymentHash = k := HoldInvoices.hex_paymentHash hget
    rcases h.getHoldInvoice invoice.paymentHash with ⟨huses, -, inv, hinv, hsettled⟩ | ⟨hnot, hsame⟩
    · have hinv' : s.holdInvoices.get? (hex invoice.paymentHash) = some inv := hinv
      rw [hinv']
      dsimp only
      have hnot : ¬ (inv.fundingStatus = .funded ∧ ¬ Progress.none.Uses inv.paymentHash) := by
        rw [hsettled]
        exact fun hno => by cases hno.1
      rw [if_neg hnot, if_neg fun hno => hno.2 huses]
    · have hsame' : s.holdInvoices.get? (hex invoice.paymentHash) = some invoice := hsame.trans hget
      rw [hsame']
      dsimp only
      by_cases hfunded : invoice.fundingStatus = .funded
      · rw [if_pos ⟨hfunded, Progress.not_uses_none _⟩, if_pos ⟨hfunded, hnot⟩]
        cases invoice.associatedInvoice with
        | none => rfl
        | some payment_hash =>
          dsimp only
          rcases h.getHoldInvoice payment_hash with ⟨huses, hsome, inv, hinv, hsettled⟩ | ⟨hnot', hsame'⟩
          · obtain ⟨prepay, hprepay⟩ := Option.isSome_iff_exists.mp hsome
            rw [hinv, hprepay]
            dsimp only
            have hnot : ¬ (inv.fundingStatus = .funded ∧ ¬ Progress.none.Uses payment_hash) := by
              rw [hsettled]
              exact fun hno => by cases hno.1
            rw [if_neg hnot, if_neg fun hno => hno.2 huses]
          · rw [hsame']
            cases w.getHoldInvoice payment_hash with
            | none => rfl
            | some prepay =>
              dsimp only
              by_cases hstatus : prepay.fundingStatus = .funded
              · rw [if_pos ⟨hstatus, Progress.not_uses_none _⟩, if_pos ⟨hstatus, hnot'⟩]
              · rw [if_neg fun hno => hstatus hno.1, if_neg fun hno => hstatus hno.1]
      · rw [if_neg fun hno => hfunded hno.1, if_neg fun hno => hfunded hno.1]

theorem canRedeem_iff (h : Met w p keys s) (prepay : HoldInvoice) :
    s.CanRedeem env .none prepay ↔ w.CanRedeem env p prepay := by
  have hhtlcs : s.Answerable prepay.incomingHtlcs.elems ↔
      w.Answerable (p.htlcs ++ prepay.incomingHtlcs.elems) :=
    ((World.answerable_behind h.answered).trans (and_iff_right h.answerable)).symm
  have hknown : s.PreimageKnown prepay.paymentHash ↔ w.PreimageKnown prepay.paymentHash := by
    unfold World.PreimageKnown
    rw [h.preimages]
  constructor
  · rintro ⟨hpreimage, hfull, hopen, hwrite⟩
    exact ⟨hknown.mp hpreimage, hfull, hhtlcs.mp hopen, h.calls ▸ hwrite⟩
  · rintro ⟨hpreimage, hfull, hopen, hwrite⟩
    exact ⟨hknown.mpr hpreimage, hfull, hhtlcs.mpr hopen, h.calls ▸ hwrite⟩

omit [Deployment] in
theorem canCall_iff (h : Met w p keys s) (hk : k ∈ keys) :
    s.CanCall env .none k ↔ w.CanCall env p k := by
  unfold World.CanCall
  rw [h.swaps k hk, h.running, h.calls]
  exact Iff.rfl

/-! ### What the loop leaves -/

omit [Deployment] in
/-- The entry under `k` has been left alone, or has been removed. -/
theorem skip (h : Met w p (k :: keys) s) {s' : World}
    (hregistered : ∀ k', k' ≠ k → s'.holdInvoiceCallbacks.contains k'
      = s.holdInvoiceCallbacks.contains k')
    (hsame : s' = { s with holdInvoiceCallbacks := s'.holdInvoiceCallbacks }) :
    Met w p keys s' := by
  have hne : ∀ k' ∈ keys, k' ≠ k := by
    rintro k' hk' rfl
    exact (List.nodup_cons.mp h.nodup).1 hk'
  rw [hsame]
  refine ⟨(List.nodup_cons.mp h.nodup).2, fun k' hk' => ?_, h.others, h.redeemed, h.preimages, h.running,
    fun k' hk' => h.swaps k' (List.mem_cons_of_mem k hk'), ⟨h.stored.keyed, h.stored.tracked⟩, h.calls,
    h.answerable, h.answered⟩
  exact (hregistered k' (hne k' hk')).trans (h.registered k' (List.mem_cons_of_mem k hk'))

omit [Deployment] in
/-- The callback of the swap under `k` has been called. -/
theorem called (h : Met w p (k :: keys) s) {s' : World} (hs : s.Called env k s') :
    Met w (p.call env w k) keys s' := by
  have hne : ∀ k' ∈ keys, k' ≠ k := by
    rintro k' hk' rfl
    exact (List.nodup_cons.mp h.nodup).1 hk'
  have hwrites : s.callWrites env k = w.callWrites env k := by
    unfold World.callWrites World.unfunded
    rw [h.swaps k List.mem_cons_self]
  refine ⟨(List.nodup_cons.mp h.nodup).2, fun k' hk' => ?_, fun k' hk' => ?_, fun inv hinv => ?_,
    hs.preimages.trans h.preimages, hs.running.trans h.running, fun k' hk' => ?_, hs.stored, ?_,
    h.answerable, fun r => (hs.answered r).trans (h.answered r)⟩
  · exact (hs.holdInvoiceCallbacks k' (hne k' hk')).trans
      (h.registered k' (List.mem_cons_of_mem k hk'))
  · rw [hs.holdInvoices]
    exact h.others k' hk'
  · unfold World.getHoldInvoice
    rw [hs.holdInvoices]
    exact h.redeemed inv hinv
  · exact (hs.swaps k' (hne k' hk')).trans (h.swaps k' (List.mem_cons_of_mem k hk'))
  · show s'.db.calls = w.db.calls + (p.writes + w.callWrites env k)
    rw [hs.calls, h.calls, hwrites, Nat.add_assoc]

/-- A prepay invoice has been redeemed. -/
theorem redeem (h : Met w p keys s) {prepay : HoldInvoice} {s' : World}
    (hstored : w.getHoldInvoice prepay.paymentHash = some prepay)
    (hcan : w.CanRedeem env p prepay) (hs : s.Redeemed prepay s') :
    Met w (p.redeem prepay) keys s' := by
  refine ⟨h.nodup, fun k hk => ?_, fun k hk => ?_, fun inv hinv => ?_,
    hs.preimages.trans h.preimages, ?_, fun k hk => ?_, ⟨?_, ?_⟩, ?_, ?_, fun r => ?_⟩
  · rw [hs.holdInvoiceCallbacks]
    exact h.registered k hk
  · have hne : k ≠ hex prepay.paymentHash :=
      (hk prepay (List.mem_append_right _ List.mem_cons_self)).symm
    exact (hs.others k hne).trans (h.others k fun inv hinv => hk inv (List.mem_append_left _ hinv))
  · by_cases heq : inv.paymentHash = prepay.paymentHash
    · rw [heq, hstored]
      exact ⟨rfl, hs.settled⟩
    · rcases List.mem_append.mp hinv with hinv | hinv
      · obtain ⟨hsome, inv', hinv', hsettled⟩ := h.redeemed inv hinv
        refine ⟨hsome, inv', ?_, hsettled⟩
        exact (hs.others _ fun hk => heq (hex_inj.mp hk)).trans hinv'
      · cases List.mem_singleton.mp hinv
        exact absurd rfl heq
  · show s'.invoicesToPay.isSome = _
    rw [hs.invoicesToPay]
    exact h.running
  · unfold World.swap?
    rw [hs.swaps, hs.heap]
    exact h.swaps k hk
  · rw [hs.swaps, hs.heap]
    exact h.stored.keyed
  · exact h.stored.tracked.congr hs.swaps hs.heap
  · show s'.db.calls = w.db.calls + (p.writes + 1)
    rw [hs.calls, h.calls, Nat.add_assoc]
  · rw [Progress.htlcs_redeem]
    exact hcan.htlcs
  · rw [hs.answered, h.answered, Progress.htlcs_redeem, acceptedRequests_append, List.mem_append]
    tauto

/-! ### The turn -/

variable {item : Hex × HoldInvoiceCallback}

theorem calls_iff (h : Met w p (k :: keys) s) : s.Calls env .none k ↔ w.Calls env p k := by
  unfold World.Calls
  rw [h.turn]
  cases w.turn p k with
  | removed => exact Iff.rfl
  | waits => exact Iff.rfl
  | raises => exact Iff.rfl
  | calls invoice => exact Iff.rfl
  | redeems invoice prepay => exact h.canRedeem_iff prepay

/-- **A turn returns exactly when the tables say that the entry is passed**, and leaves the entries behind
it as the tables say. -/
theorem callbackTurn (env : Env) (h : Met w p (item.1 :: keys) s) :
    Triple (· = s) (callbackTurn env item)
      (fun _ s' => w.Passes env p item.1 ∧ Met w (p.after env w item.1) keys s')
      (fun _ _ => ¬ w.Passes env p item.1) := by
  intro s' hs'
  obtain rfl := hs'
  rw [callbackTurn_run, h.turn]
  have hspec : ∀ {p' : Progress} {t : World} {invoice : HoldInvoice},
      Met w p' (item.1 :: keys) t → hex invoice.paymentHash = item.1 →
      Triple (· = t) (invokeCallback (callOf env item.2) invoice)
        (fun _ s' => w.CanCall env p' item.1 ∧ Met w (p'.call env w item.1) keys s')
        (fun _ _ => ¬ w.CanCall env p' item.1) := by
    intro p' t invoice ht hk
    have hcall := invokeCallback_spec env ht.stored item.2 invoice
    rw [hk] at hcall
    refine hcall.conseq (fun _ h => h) (fun _ _ hs => ?_) fun _ _ hs => ?_
    · exact ⟨(ht.canCall_iff List.mem_cons_self).mp hs.1, ht.called hs.2⟩
    · exact fun hno => hs ((ht.canCall_iff List.mem_cons_self).mpr hno)
  unfold World.Passes Progress.after
  cases hturn : w.turn p item.1 with
  | removed =>
    have hrun : Turn.removed.run env item s'
        = .ok ⟨⟩ { s' with holdInvoiceCallbacks := s'.holdInvoiceCallbacks.pop item.1 } := by
      dsimp only [Turn.run]
      rw [get_bind, if_pos (h.registered item.1 List.mem_cons_self)]
      rfl
    rw [hrun]
    refine ⟨trivial, h.skip (fun k' hk' => ?_) rfl⟩
    show ((s'.holdInvoiceCallbacks.pop item.1).get? k').isSome = _
    rw [Dict.get?_pop_ne _ hk']
    rfl
  | waits => exact ⟨trivial, h.skip (fun _ _ => rfl) rfl⟩
  | raises => exact fun hno => hno
  | calls invoice => exact hspec h (World.turn_invoice (.inl hturn)) s' rfl
  | redeems invoice prepay =>
    obtain ⟨hstored, hnot⟩ := World.turn_prepay hturn
    have hstored' : s'.getHoldInvoice prepay.paymentHash = some prepay := by
      rcases h.getHoldInvoice prepay.paymentHash with ⟨huses, -⟩ | ⟨-, hsame⟩
      · exact absurd huses hnot
      · exact hsame.trans hstored
    have hredeem := redeemPrepay_spec env hstored' s' rfl
    have hrun : (Turn.redeems invoice prepay).run env item s'
        = (redeemPrepay env prepay >>= fun _ => invokeCallback (callOf env item.2) invoice) s' := rfl
    rw [hrun]
    cases hr : redeemPrepay env prepay s' with
    | ok _ t =>
      rw [hr] at hredeem
      have hcan := (h.canRedeem_iff prepay).mp hredeem.1
      have hcall := hspec (h.redeem hstored hcan hredeem.2)
        (World.turn_invoice (.inr ⟨prepay, hturn⟩)) t rfl
      rw [bind_ok hr]
      cases hr' : invokeCallback (callOf env item.2) invoice t with
      | ok _ t' =>
        rw [hr'] at hcall
        exact ⟨⟨hcan, hcall.1⟩, hcall.2⟩
      | error e t' =>
        rw [hr'] at hcall
        exact fun hno => hcall hno.2
    | error e t =>
      rw [hr] at hredeem
      rw [bind_error hr]
      exact fun hno => hredeem ((h.canRedeem_iff prepay).mpr hno.1)

end Met

/-! ## What a pass says of callbacks -/

section

variable {invoice prepay : HoldInvoice} {item : Hex × HoldInvoiceCallback}

omit [Deployment] in
/-- The callbacks say nothing of callbacks. -/
theorem invokesNone_callOf (callback : HoldInvoiceCallback) (payment_hash : Bytes) (w₀ : World) :
    Keeps (SaysOnly Event.InvokesNone w₀) (callOf env callback payment_hash) := by
  cases callback with
  | holdInvoiceCallback =>
    refine says_holdInvoiceCallback ?_ ?_ payment_hash w₀
    · intro _ _ _ _ hno
      cases hno
    · intro _ _ _ _ hno
      cases hno

theorem invokesNone_redeemPrepay (env : Env) (prepay : HoldInvoice) (w₀ : World) :
    Keeps (SaysOnly Event.InvokesNone w₀) (redeemPrepay env prepay) := by
  refine says_redeemPrepay ?_ ?_ ?_ prepay w₀
  · intro _ _ _ hno
    cases hno
  · intro _ _ _ hno
    cases hno
  · intro _ _ _ hno
    cases hno

omit [Deployment] in
/-- Calling the callback of an invoice is said once, under its payment hash. -/
theorem invokeCallback_log (env : Env) (callback : HoldInvoiceCallback) (invoice : HoldInvoice) (w : World) :
    ∃ es inv, (final (invokeCallback (callOf env callback) invoice) w).trace
        = es ++ .invokeCallback inv :: w.trace ∧
      inv.paymentHash = invoice.paymentHash ∧ ∀ e ∈ es, e.InvokesNone := by
  generalize hinv : (w.getHoldInvoice invoice.paymentHash).getD invoice = inv
  have hrest : Keeps (SaysOnly Event.InvokesNone (w.say (.invokeCallback inv))) (do
      callOf env callback invoice.paymentHash
      unregisterHoldInvoiceCallback (hex invoice.paymentHash)) :=
    Keeps.bind (invokesNone_callOf callback _ _) fun _ => Keeps.modify fun _ hs => hs.same rfl
  obtain ⟨es, hes, hnone⟩ := hrest.final (.refl _)
  refine ⟨es, inv, ?_, ?_, hnone⟩
  · rw [← World.say_trace, ← hes, ← hinv]
    rfl
  · rw [← hinv]
    cases hget : w.getHoldInvoice invoice.paymentHash with
    | none => rfl
    | some stored => exact hex_inj.mp (HoldInvoices.hex_paymentHash hget)


/-- **What a turn says of callbacks**: its own, if it comes to it. -/
theorem callbackTurn_log (env : Env) (item : Hex × HoldInvoiceCallback) (w : World) :
    ∃ es, (final (callbackTurn env item) w).trace = es ++ w.trace ∧
      ∀ k, (∃ inv, hex inv.paymentHash = k ∧ .invokeCallback inv ∈ es) ↔
        item.1 = k ∧ w.Calls env .none item.1 := by
  have hnever : ∀ {es : List Event}, (∀ e ∈ es, e.InvokesNone) → ¬ w.Calls env .none item.1 →
      ∀ k, (∃ inv, hex inv.paymentHash = k ∧ .invokeCallback inv ∈ es) ↔
        item.1 = k ∧ w.Calls env .none item.1 := by
    intro es hnone hnot k
    refine iff_of_false ?_ fun h => hnot h.2
    rintro ⟨inv, -, hmem⟩
    exact hnone _ hmem inv rfl
  -- the log of a turn that comes to the callback of `invoice` in `s`
  have hcalled : ∀ {es : List Event} {invoice : HoldInvoice} {s : World}, s.trace = es ++ w.trace →
      (∀ e ∈ es, e.InvokesNone) → hex invoice.paymentHash = item.1 → w.Calls env .none item.1 →
      ∃ es', (final (invokeCallback (callOf env item.2) invoice) s).trace = es' ++ w.trace ∧
        ∀ k, (∃ inv, hex inv.paymentHash = k ∧ .invokeCallback inv ∈ es') ↔
          item.1 = k ∧ w.Calls env .none item.1 := by
    intro es invoice s hes hnone hk hcalls
    obtain ⟨es', inv, hlog, hinv, hnone'⟩ := invokeCallback_log env item.2 invoice s
    refine ⟨es' ++ .invokeCallback inv :: es, ?_, fun k => ?_⟩
    · rw [hlog, hes, List.append_assoc]
      rfl
    · constructor
      · rintro ⟨inv', rfl, hmem⟩
        refine ⟨?_, hcalls⟩
        rcases List.mem_append.mp hmem with hmem | hmem
        · exact absurd rfl (hnone' _ hmem inv')
        · rcases List.mem_cons.mp hmem with heq | hmem
          · cases heq
            rw [hinv, hk]
          · exact absurd rfl (hnone _ hmem inv')
      · rintro ⟨rfl, -⟩
        exact ⟨inv, by rw [hinv, hk], List.mem_append_right _ List.mem_cons_self⟩
  have hnil : ∀ e ∈ ([] : List Event), e.InvokesNone := fun _ he => by cases he
  rw [final_congr (callbackTurn_run env item w)]
  cases hturn : w.turn .none item.1 with
  | removed =>
    have hnot : ¬ w.Calls env .none item.1 := by
      unfold World.Calls
      rw [hturn]
      exact id
    have hkeeps : Keeps (fun s => s.trace = w.trace) ((Turn.removed).run env item) :=
      Keeps.get fun _ => Keeps.ite (Keeps.modify fun _ h => h) Keeps.throw
    exact ⟨[], hkeeps.final rfl, hnever hnil hnot⟩
  | waits =>
    have hnot : ¬ w.Calls env .none item.1 := by
      unfold World.Calls
      rw [hturn]
      exact id
    exact ⟨[], rfl, hnever hnil hnot⟩
  | raises =>
    have hnot : ¬ w.Calls env .none item.1 := by
      unfold World.Calls
      rw [hturn]
      exact id
    exact ⟨[], rfl, hnever hnil hnot⟩
  | calls invoice =>
    have hcalls : w.Calls env .none item.1 := by
      unfold World.Calls
      rw [hturn]
      trivial
    exact hcalled (List.nil_append w.trace).symm hnil (World.turn_invoice (.inl hturn)) hcalls
  | redeems invoice prepay =>
    have hcalls : w.Calls env .none item.1 ↔ w.CanRedeem env .none prepay := by
      unfold World.Calls
      rw [hturn]
    have hredeem := redeemPrepay_spec env (World.turn_prepay hturn).1 w rfl
    obtain ⟨es, hes, hnone⟩ := (invokesNone_redeemPrepay env prepay w).final (.refl w)
    have hrun : (Turn.redeems invoice prepay).run env item w
        = (redeemPrepay env prepay >>= fun _ => invokeCallback (callOf env item.2) invoice) w := rfl
    rw [final_congr hrun]
    unfold final at hes
    cases hr : redeemPrepay env prepay w with
    | ok _ s =>
      rw [hr] at hredeem hes
      rw [final_bind_ok hr]
      exact hcalled hes hnone (World.turn_invoice (.inr ⟨prepay, hturn⟩)) (hcalls.mpr hredeem.1)
    | error e s =>
      rw [hr] at hredeem hes
      rw [final_bind_error hr]
      exact ⟨es, hes, hnever hnone fun hno => hredeem (hcalls.mp hno)⟩

end

/-! ## The pass -/

/-- One pass of `callback_handler` invokes the callback registered under `k`. -/
def Invoked (env : Env) (w : World) (k : Hex) : Prop :=
  ∃ invoice, hex invoice.paymentHash = k ∧
    Emits (callbackHandler env (callOf env)) w (.invokeCallback invoice)

/-- Going by the tables, the loop gets past each entry in front of the one under `k`, and the turn of that
one comes to call its callback. -/
def Unblocked (env : Env) (w : World) (k : Hex) : Prop :=
  ∃ pre item post, w.holdInvoiceCallbacks.items = pre ++ item :: post ∧ item.1 = k ∧
    Allows (fun item p => p.after env w item.1) (fun p item => w.Passes env p item.1) .none pre ∧
    w.Calls env (pre.foldl (fun p item => p.after env w item.1) .none) k

/-- The loop follows the tables. -/
theorem pass_simulates (env : Env) (h : w.SwapsStored) {pre post : List (Hex × HoldInvoiceCallback)}
    (hitems : w.holdInvoiceCallbacks.items = pre ++ post) :
    (returns (pre.forM (callbackTurn env)) w = true ↔
      Allows (fun item p => p.after env w item.1) (fun p item => w.Passes env p item.1) .none pre) ∧
    (returns (pre.forM (callbackTurn env)) w = true →
      Met w (pre.foldl (fun p item => p.after env w item.1) .none) (post.map Prod.fst)
        (final (pre.forM (callbackTurn env)) w)) := by
  have hstart : Met w .none ((pre ++ post).map Prod.fst) w := by
    rw [← hitems]
    exact .start h
  have hsimulates : (Allows (fun item s => final (callbackTurn env item) s)
        (fun s item => returns (callbackTurn env item) s = true) w pre ↔
      Allows (fun item p => p.after env w item.1) (fun p item => w.Passes env p item.1) .none pre) ∧
      (Allows (fun item p => p.after env w item.1) (fun p item => w.Passes env p item.1) .none pre →
        Met w (pre.foldl (fun p item => p.after env w item.1) .none) (post.map Prod.fst)
          (pre.foldl (fun s item => final (callbackTurn env item) s) w)) := by
    refine Allows.simulate (R := fun items p s => Met w p (items.map Prod.fst) s) ?_ hstart
    intro item items p s hmet
    have hturn := Met.callbackTurn env hmet s rfl
    unfold returns final
    cases hr : callbackTurn env item s with
    | ok _ s' =>
      rw [hr] at hturn
      exact ⟨iff_of_true rfl hturn.1, fun _ => hturn.2⟩
    | error e s' =>
      rw [hr] at hturn
      exact ⟨iff_of_false Bool.false_ne_true hturn, fun hno => absurd hno hturn⟩
  refine ⟨forM_returns_iff.trans hsimulates.1, fun hreturns => ?_⟩
  rw [final_forM hreturns]
  exact hsimulates.2 (hsimulates.1.mp (forM_returns_iff.mp hreturns))

/-- **Which callbacks a pass invokes.** -/
theorem invoked_iff (env : Env) (h : w.SwapsStored) (k : Hex) :
    Invoked env w k ↔ Unblocked env w k := by
  obtain ⟨es, hes, hmem⟩ := log_forM (f := callbackTurn env) World.trace
    (fun item s => (callbackTurn_log env item s).imp fun _ h => h.1) w.holdInvoiceCallbacks.items w
  have hcaught : callbackHandler env (callOf env) w
      = tryCatch (w.holdInvoiceCallbacks.items.forM (callbackTurn env)) (fun _ => pure ()) w := rfl
  have hpass : (final (callbackHandler env (callOf env)) w).trace = es ++ w.trace := by
    rw [← hes]
    unfold final
    rw [hcaught]
    cases hr : w.holdInvoiceCallbacks.items.forM (callbackTurn env) w with
    | ok a t => rw [tryCatch_ok hr]
    | error e t =>
      rw [tryCatch_error hr]
      rfl
  have hemits : Invoked env w k ↔
      ∃ invoice, hex invoice.paymentHash = k ∧ .invokeCallback invoice ∈ es :=
    exists_congr fun invoice => and_congr_right fun _ => emits_of_trace hpass _
  rw [hemits]
  constructor
  · rintro ⟨invoice, hk, hsaid⟩
    obtain ⟨pre, item, post, hitems, hreturns, es', hlog, hsaid'⟩ := (hmem _).mp hsaid
    obtain ⟨es'', hlog'', hiff⟩ :=
      callbackTurn_log env item (final (pre.forM (callbackTurn env)) w)
    cases List.append_cancel_right (hlog.symm.trans hlog'')
    obtain ⟨rfl, hcalls⟩ := (hiff k).mp ⟨invoice, hk, hsaid'⟩
    obtain ⟨hallows, hmet⟩ := pass_simulates env h hitems
    exact ⟨pre, item, post, hitems, rfl, hallows.mp hreturns, (hmet hreturns).calls_iff.mp hcalls⟩
  · rintro ⟨pre, item, post, hitems, rfl, hpre, hcalls⟩
    obtain ⟨hallows, hmet⟩ := pass_simulates env h hitems
    have hreturns := hallows.mpr hpre
    obtain ⟨es', hlog, hiff⟩ :=
      callbackTurn_log env item (final (pre.forM (callbackTurn env)) w)
    obtain ⟨invoice, hk, hsaid⟩ := (hiff item.1).mpr ⟨rfl, (hmet hreturns).calls_iff.mpr hcalls⟩
    exact ⟨invoice, hk, (hmem _).mpr ⟨pre, item, post, hitems, hreturns, es', hlog, hsaid⟩⟩

/-- The entry under `k` is due: its invoice is `FUNDED`, and the prepay invoice, if there is one, is
stored and `FUNDED`, with its preimage known. -/
structure World.Payable (w : World) (k : Hex) : Prop where
  registered : w.holdInvoiceCallbacks.contains k = true
  main : ∃ invoice, w.holdInvoices.get? k = some invoice ∧ invoice.fundingStatus = .funded ∧
    ∀ h, invoice.associatedInvoice = some h → ∃ prepay, w.getHoldInvoice h = some prepay ∧
      prepay.fundingStatus = .funded ∧ w.PreimageKnown h

/-- **A pass invokes every callback that is due** exactly if the tables let the loop through to each of
them. -/
theorem callbackHandler_unblocked_iff (env : Env) (w : World) (h : w.SwapsStored) :
    (∀ k, w.Payable k → Invoked env w k) ↔ ∀ k, w.Payable k → Unblocked env w k :=
  forall_congr' fun k => imp_congr_right fun _ => invoked_iff env h k

/-! ## A prepay invoice that is settled already -/

/-- The funding of the swap under `k` has been started and not been done: its main invoice is `FUNDED`,
its prepay invoice is `FUNDED` or `SETTLED`, no funding transaction is noted, and its callback is
registered. -/
structure World.Interrupted (w : World) (k : Hex) : Prop where
  registered : w.holdInvoiceCallbacks.contains k = true
  main : ∃ invoice h prepay, w.holdInvoices.get? k = some invoice ∧ invoice.fundingStatus = .funded ∧
    invoice.associatedInvoice = some h ∧ w.getHoldInvoice h = some prepay ∧
    (prepay.fundingStatus = .funded ∨ prepay.fundingStatus = .settled)
  swap : ∃ ref, w.swaps.get? k = some ref ∧ (w.heap ref).fundingTxid = none

omit [Deployment] in
/-- An entry whose prepay invoice is settled only waits, whatever has been used up before. -/
theorem World.turn_settled {invoice prepay : HoldInvoice} {h : Bytes}
    (hget : w.holdInvoices.get? k = some invoice) (hprepay : invoice.associatedInvoice = some h)
    (hstored : w.getHoldInvoice h = some prepay) (hsettled : prepay.fundingStatus = .settled)
    (p : Progress) : w.turn p k = .waits := by
  unfold World.turn
  rw [hget]
  dsimp only
  split
  · rw [hprepay]
    dsimp only
    rw [hstored]
    dsimp only
    rw [if_neg]
    rintro ⟨hfunded, -⟩
    rw [hsettled] at hfunded
    cases hfunded
  · rfl

/-- **Interrupted funding is taken up by the next pass** exactly if the tables let the loop through to it:
its prepay invoice has to be `FUNDED`, so it must not have been settled before the interruption. -/
theorem interrupted_resumes_iff {ok : World → Action → Prop} (env : Env) (w : World)
    (h : Reachable ok w) :
    (∀ k, w.Interrupted k → Invoked env w k) ↔ ∀ k, w.Interrupted k → Unblocked env w k :=
  forall_congr' fun k => imp_congr_right fun _ => invoked_iff env (swapsStored_of_reachable h) k

end

section Sample

open Sample

attribute [local instance] Sample.deployment

/-- An hour later. -/
private def anHourLater : Env :=
  { env with timeNs := env.timeNs + 3600 * 1000000000, urandomPreimage := otherPreimage }

private def secondHash : Bytes := List.replicate 32 1

/-- Two swaps. The client of the first has paid the main invoice only, and the prepay invoice has
expired and been deleted; the client of the second has paid both invoices. -/
private def secondWaits : World :=
  runOf (boot ++ [.request env (createswap 50000), deliver 1 paymentHash 49728000, .expiry anHourLater,
    .request anHourLater (.createswap "reversesubmarine" "BTC/BTC" 50000 secondHash
      (3 :: List.replicate 32 4)),
    deliver 2 secondHash 49728000, deliver 3 otherHash 272000]) World.start

/-- The main invoice is `FUNDED`, and its prepay invoice has the status `st`. -/
private def paidWith (w : World) (payment_hash prepay_hash : Bytes) (st : InvoiceState) : Bool :=
  ((w.getHoldInvoice payment_hash).any fun invoice =>
    invoice.fundingStatus = .funded ∧ invoice.associatedInvoice = some prepay_hash) &&
  (w.getHoldInvoice prepay_hash).any fun prepay => prepay.fundingStatus = st

private theorem paidWith_spec {w : World} {payment_hash prepay_hash : Bytes} {st : InvoiceState}
    (h : paidWith w payment_hash prepay_hash st = true) :
    ∃ invoice prepay, w.holdInvoices.get? (hex payment_hash) = some invoice ∧
      invoice.fundingStatus = .funded ∧ invoice.associatedInvoice = some prepay_hash ∧
      w.getHoldInvoice prepay_hash = some prepay ∧ prepay.fundingStatus = st := by
  obtain ⟨hmain, hprepay⟩ := Bool.and_eq_true_iff.mp h
  obtain ⟨invoice, hget, hmain⟩ := (Option.any_eq_true _ _).mp hmain
  obtain ⟨prepay, hstored, hstatus⟩ := (Option.any_eq_true _ _).mp hprepay
  obtain ⟨hfunded, hassociated⟩ := of_decide_eq_true hmain
  exact ⟨invoice, prepay, hget, hfunded, hassociated, hstored, of_decide_eq_true hstatus⟩

/-- A pass that says nothing invokes nothing. -/
private theorem not_invoked {env : Env} {w : World} {k : Hex}
    (h : (final (callbackHandler env (callOf env)) w).trace.length = w.trace.length) :
    ¬ Invoked env w k := by
  rintro ⟨invoice, -, es, hes, hmem⟩
  rw [hes, List.length_append] at h
  have hnil : es = [] := List.length_eq_zero_iff.mp (by omega)
  rw [hnil] at hmem
  cases hmem

/-- The prepay invoice can be redeemed, as far as the HTLCs held on it go. -/
private def redeemable (w : World) (prepay_hash : Bytes) : Bool :=
  (w.getHoldInvoice prepay_hash).any fun prepay => prepay.isFullyFunded &&
    (prepay.incomingHtlcs.elems.all fun h => h.requestCallback.any fun r => !decide (w.Answered r)) &&
    decide (acceptedRequests prepay.incomingHtlcs.elems).Nodup

private theorem canRedeem_of_redeemable {w : World} {prepay : HoldInvoice}
    (hstored : w.getHoldInvoice prepay.paymentHash = some prepay)
    (hknown : w.PreimageKnown prepay.paymentHash) (h : redeemable w prepay.paymentHash = true) :
    w.CanRedeem env .none prepay := by
  unfold redeemable at h
  rw [hstored, Option.any_some, Bool.and_eq_true, Bool.and_eq_true] at h
  obtain ⟨⟨hfull, hopen⟩, hown⟩ := h
  refine ⟨hknown, hfull, ⟨fun a ha _ => ?_, of_decide_eq_true hown⟩, rfl⟩
  obtain ⟨r, hr, hnot⟩ := (Option.any_eq_true _ _).mp (List.all_eq_true.mp hopen a ha)
  exact ⟨r, hr, by simpa using hnot⟩

/-- Both invoices of a swap have been paid. -/
private def bothPaid : World :=
  runOf (boot ++ [.request env (createswap 50000), deliver 1 paymentHash 49728000,
    deliver 2 prepayHash 272000]) World.start

/-- The one entry there is. -/
private theorem unblocked_bothPaid {k : Hex} (hk : bothPaid.holdInvoiceCallbacks.contains k = true) :
    Unblocked env bothPaid k := by
  have hitems : bothPaid.holdInvoiceCallbacks.items = [(hex paymentHash, .holdInvoiceCallback)] := by
    decide +kernel
  obtain ⟨callback, hget⟩ := Dict.contains_iff.mp hk
  have hmem := Dict.mem_of_get? hget
  rw [hitems] at hmem
  cases List.mem_singleton.mp hmem
  refine ⟨[], _, [], hitems, rfl, trivial, ?_⟩
  obtain ⟨invoice, prepay, hmain, hfunded, hassociated, hstored, hstatus⟩ :=
    paidWith_spec (by decide +kernel : paidWith bothPaid paymentHash prepayHash .funded = true)
  have hh : prepay.paymentHash = prepayHash := hex_inj.mp (HoldInvoices.hex_paymentHash hstored)
  have hturn : bothPaid.turn .none (hex paymentHash) = .redeems invoice prepay := by
    unfold World.turn
    rw [hmain]
    dsimp only
    rw [if_pos ⟨hfunded, Progress.not_uses_none _⟩, hassociated]
    dsimp only
    rw [hstored]
    dsimp only
    rw [if_pos ⟨hstatus, Progress.not_uses_none _⟩]
  show World.Calls env bothPaid .none (hex paymentHash)
  unfold World.Calls
  rw [hturn]
  rw [← hh] at hstored
  refine canRedeem_of_redeemable hstored ?_ (by rw [hh]; decide +kernel)
  rw [hh]
  exact ⟨by decide, Sample.prepayPreimage, by decide +kernel, by decide +kernel⟩

/-- A swap that nothing stands in front of is called. -/
theorem callbackHandler_unblocked_paid : Invoked env bothPaid (hex paymentHash) := by
  have hpayable : bothPaid.Payable (hex paymentHash) := by
    refine ⟨by decide +kernel, ?_⟩
    obtain ⟨invoice, prepay, hget, hfunded, hassociated, hstored, hstatus⟩ :=
      paidWith_spec (by decide +kernel : paidWith bothPaid paymentHash prepayHash .funded = true)
    refine ⟨invoice, hget, hfunded, fun p hp => ?_⟩
    cases hassociated.symm.trans hp
    exact ⟨prepay, hstored, hstatus, by decide, Sample.prepayPreimage, by decide +kernel,
      by decide +kernel⟩
  exact (callbackHandler_unblocked_iff env bothPaid (swapsStored_of_reachable (reachable_runOf _))).mpr
    (fun k hk => unblocked_bothPaid hk.registered) _ hpayable

/-- The second swap is not looked at: the first one raises `AttributeError` in every pass. -/
theorem callbackHandler_blocks : ∃ env w, Reachable (fun _ _ => True) w ∧
    ¬ ∀ k, w.Payable k → Invoked env w k := by
  refine ⟨anHourLater, secondWaits, reachable_runOf _, fun h => ?_⟩
  have hpayable : secondWaits.Payable (hex secondHash) := by
    refine ⟨by decide +kernel, ?_⟩
    obtain ⟨invoice, prepay, hget, hfunded, hassociated, hstored, hstatus⟩ :=
      paidWith_spec (by decide +kernel : paidWith secondWaits secondHash otherHash .funded = true)
    refine ⟨invoice, hget, hfunded, fun p hp => ?_⟩
    cases hassociated.symm.trans hp
    exact ⟨prepay, hstored, hstatus, by decide, otherPreimage, by decide +kernel, by decide +kernel⟩
  exact not_invoked (by decide +kernel) (h _ hpayable)

/-- A swap whose funding has not come further than the payment of its two invoices is taken up. -/
theorem interrupted_resumes_paid : Invoked env bothPaid (hex paymentHash) := by
  have hinterrupted : bothPaid.Interrupted (hex paymentHash) := by
    obtain ⟨invoice, prepay, hget, hfunded, hassociated, hstored, hstatus⟩ :=
      paidWith_spec (by decide +kernel : paidWith bothPaid paymentHash prepayHash .funded = true)
    exact ⟨by decide +kernel, ⟨invoice, prepayHash, prepay, hget, hfunded, hassociated, hstored,
      .inl hstatus⟩, 0, by decide +kernel, by decide +kernel⟩
  have hreach : Reachable (fun _ _ => True) bothPaid := reachable_runOf _
  exact (interrupted_resumes_iff env bothPaid hreach).mpr
    (fun k hk => unblocked_bothPaid hk.registered) _ hinterrupted

/-- Both invoices of a swap have been paid, and the wallet could not make the funding transaction. -/
private def interruptedOnce : World :=
  runOf (boot ++ [.request env (createswap 50000), deliver 1 paymentHash 49728000,
    deliver 2 prepayHash 272000, .callbacks { env with fundpsbt := none }]) World.start

/-- With a wallet that works again, the swap is still not funded. -/
theorem interrupted_waits : ∃ env w, Reachable (fun _ _ => True) w ∧
    ¬ ∀ k, w.Interrupted k → Invoked env w k := by
  have hreach : Reachable (fun _ _ => True) interruptedOnce := reachable_runOf _
  refine ⟨env, interruptedOnce, hreach, fun h => ?_⟩
  obtain ⟨invoice, prepay, hget, hfunded, hassociated, hstored, hstatus⟩ :=
    paidWith_spec (by decide +kernel : paidWith interruptedOnce paymentHash prepayHash .settled = true)
  have hinterrupted : interruptedOnce.Interrupted (hex paymentHash) :=
    ⟨by decide +kernel, ⟨invoice, prepayHash, prepay, hget, hfunded, hassociated, hstored,
      .inr hstatus⟩, 0, by decide +kernel, by decide +kernel⟩
  obtain ⟨pre, item, post, -, -, -, hcalls⟩ :=
    (invoked_iff env (swapsStored_of_reachable hreach) _).mp (h _ hinterrupted)
  unfold World.Calls at hcalls
  rwa [World.turn_settled hget hassociated hstored hstatus] at hcalls

end Sample

end SubswapProvider
