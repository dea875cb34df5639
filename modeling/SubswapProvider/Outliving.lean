import SubswapProvider.Throughout
import SubswapProvider.Hook

/-!
# HTLCs outlive the locktime of their swap

The locktime of a swap is fixed when it is created, `LOCKTIME_DELTA_REFUND` blocks above the height of
that moment. An HTLC is accepted with an expiry at least `MIN_FINAL_CLTV_DELTA_ACCEPTED` blocks above
the height at which it arrives. Heights do not decrease, so the first bound holds of every swap at
every later height, wherever there is a copy of it.
-/

namespace SubswapProvider

open Deployment Effect

section

variable [Deployment]

/-- The bound on the locktime, at a height. -/
def LocktimeBy (height : Nat) (swap : SwapData) : Prop :=
  swap.locktime ≤ height + LOCKTIME_DELTA_REFUND

theorem survives_locktimes {height n : Nat} {a : Action} {w₀ : World} (ha : AtHeight n a)
    (hn : n ≤ height) : Survives a w₀ fun w => True ∧ SwapsThroughout (LocktimeBy height) w := by
  refine Survives.trivial.swaps (fun swap hnew => ?_) (fun _ hswap => hswap)
    (fun _ _ _ _ f hf swap hswap => ?_) fun _ _ hswap => hswap
  · obtain ⟨env, r, height', rfl, hheight, hlocktime⟩ := hnew.locktime
    have heq : height' = n := ha env rfl height' hheight
    unfold LocktimeBy
    omega
  · cases hf <;> exact hswap

/-- **No swap is locked for longer than `LOCKTIME_DELTA_REFUND` from now.** -/
theorem locktimes {height : Nat} (run : List (Nat × Action)) (hb : ∀ x ∈ run, AtHeight x.1 x.2)
    (hle : ∀ x ∈ run, x.1 ≤ height) : SwapsThroughout (LocktimeBy height) (afterBlocks run) := by
  unfold afterBlocks
  induction run using List.reverseRecOn with
  | nil => exact .start
  | append_singleton past x ih =>
    have hpast : ∀ y ∈ past, y ∈ past ++ [x] := fun y hy => List.mem_append_left _ hy
    have hx : x ∈ past ++ [x] := List.mem_append_right _ (List.mem_singleton_self x)
    rw [List.map_append, List.map_singleton, runOf_append]
    have hstart := ih (fun y hy => hb y (hpast y hy)) fun y hy => hle y (hpast y hy)
    exact (step_invariant (survives_locktimes (hb x hx) (hle x hx)) ⟨trivial, hstart⟩).2

omit [Deployment] in
/-- An HTLC that is new to its invoice and left accepted has passed every check. -/
theorem handleHtlc_accepted {env : Env} {invoice : HoldInvoice} {payment_secret : Option Bytes}
    {request : Request} {w w' : World} {changed : Bool} (hnew : invoice.findHtlc request.htlc.key = none)
    (hinvoice : w.getHoldInvoice request.htlc.paymentHash = some invoice)
    (hreturns : handleHtlc env invoice payment_secret request w = .ok changed w')
    {inv : HoldInvoice} (hinv : w'.getHoldInvoice request.htlc.paymentHash = some inv) {htlc : Htlc}
    (hmem : htlc ∈ inv.incomingHtlcs) (hkey : htlc.key = request.htlc.key)
    (haccepted : htlc.state = .accepted) :
    checkHtlc env invoice payment_secret request.htlc = .ok true := by
  have hhash : invoice.paymentHash = request.htlc.paymentHash :=
    hex_inj.mp (HoldInvoices.hex_paymentHash hinvoice)
  cases hresult : checkHtlc env invoice payment_secret request.htlc with
  | error e =>
    rw [handleHtlc_raises hhash hnew hresult] at hreturns
    cases hreturns
  | ok passed =>
    cases passed with
    | true => rfl
    | false =>
      -- it has been turned down
      rw [handleHtlc_rejects hhash hnew hresult] at hreturns
      have hinv' : w'.getHoldInvoice request.htlc.paymentHash = some
          ((invoice.addHtlc (request.newHtlc env)).setHtlcState request.htlc.key .cancelled) :=
        (setResult_getHoldInvoice hreturns).trans (World.get?_withRejected hinvoice)
      rw [hinv] at hinv'
      cases hinv'
      obtain ⟨b, hb, rfl⟩ := HoldInvoice.mem_setHtlcState.mp hmem
      split at haccepted
      · cases haccepted
      · next hne =>
        rw [if_neg hne] at hkey
        exact absurd hkey hne

/-- **A new HTLC that is accepted outlives the locktime of every swap created before**, and so of the
swap of its invoice, by at least the difference of the two deltas, counted from the height at which it
is accepted. -/
theorem accepted_outlives_locktime (created later : List (Nat × Action)) (height : Nat) (env : Env)
    (payment_secret : Option Bytes) (request : Request)
    (hb : Blocks (created ++ later ++ [(height, .htlc env false payment_secret request)]))
    (ref : SwapRef) (hcreated : ref < (afterBlocks created).nextRef)
    (invoice : HoldInvoice)
    (hinvoice : (afterBlocks (created ++ later)).getHoldInvoice request.htlc.paymentHash = some invoice)
    (hnew : invoice.findHtlc request.htlc.key = none) (changed : Bool) (w' : World)
    (hreturns : handleHtlc env invoice payment_secret request (afterBlocks (created ++ later))
      = .ok changed w')
    (inv : HoldInvoice) (hinv : w'.getHoldInvoice request.htlc.paymentHash = some inv)
    (htlc : Htlc) (hmem : htlc ∈ inv.incomingHtlcs) (hkey : htlc.key = request.htlc.key)
    (haccepted : htlc.state = .accepted) :
    ((afterBlocks created).heap ref).locktime + (MIN_FINAL_CLTV_DELTA_ACCEPTED - LOCKTIME_DELTA_REFUND)
      ≤ height + request.htlc.cltvExpiryRelative := by
  have hpassed := handleHtlc_accepted hnew hinvoice hreturns hinv hmem hkey haccepted
  have hcltv := (checkHtlc_passed hpassed).2
  have hle : ∀ x ∈ created, x.1 ≤ height := by
    intro x hx
    have hmono := hb.mono
    rw [List.append_assoc, List.map_append, List.pairwise_append] at hmono
    refine hmono.2.2 x.1 (List.mem_map_of_mem hx) height ?_
    simp
  have hlocktime : ((afterBlocks created).heap ref).locktime ≤ height + LOCKTIME_DELTA_REFUND :=
    (locktimes created (fun x hx => hb.heights x (by simp [hx])) hle).live ref hcreated
  unfold LOCKTIME_DELTA_REFUND at hlocktime ⊢
  unfold MIN_FINAL_CLTV_DELTA_ACCEPTED at hcltv ⊢
  omega

end

section Sample

open Sample

attribute [local instance] Sample.deployment

/-- The client's swap is created at the sample's height. -/
def createdRun : List (Nat × Action) :=
  (boot ++ [Action.request Sample.env (createswap 50000)]).map fun a => (900000, a)

/-- Ten blocks later. -/
def tenLater : Env := { Sample.env with localHeight := some 900010 }

/-- The hook call for the main invoice comes to an accepted HTLC. -/
theorem accepted_created :
    ∃ invoice changed w' inv htlc,
      (afterBlocks (createdRun ++ [])).getHoldInvoice paymentHash = some invoice ∧
      invoice.findHtlc (htlcFor 1 paymentHash 49728000).htlc.key = none ∧
      handleHtlc tenLater invoice (some (List.replicate 32 6)) (htlcFor 1 paymentHash 49728000)
        (afterBlocks (createdRun ++ [])) = .ok changed w' ∧
      w'.getHoldInvoice paymentHash = some inv ∧ htlc ∈ inv.incomingHtlcs ∧
      htlc.key = (htlcFor 1 paymentHash 49728000).htlc.key ∧ htlc.state = .accepted := by
  have hrun : ((afterBlocks (createdRun ++ [])).getHoldInvoice paymentHash).any (fun invoice =>
      invoice.findHtlc (htlcFor 1 paymentHash 49728000).htlc.key = none &&
      match handleHtlc tenLater invoice (some (List.replicate 32 6))
          (htlcFor 1 paymentHash 49728000) (afterBlocks (createdRun ++ [])) with
      | .ok _ w' => (w'.getHoldInvoice paymentHash).any fun inv =>
          inv.incomingHtlcs.elems.any fun x =>
            x.key = (htlcFor 1 paymentHash 49728000).htlc.key ∧ x.state = .accepted
      | .error _ _ => false) = true := by decide +kernel
  obtain ⟨invoice, hinvoice, hrest⟩ := (Option.any_eq_true _ _).mp hrun
  obtain ⟨hnew, hrest⟩ := Bool.and_eq_true_iff.mp hrest
  cases hreturns : handleHtlc tenLater invoice (some (List.replicate 32 6))
      (htlcFor 1 paymentHash 49728000) (afterBlocks (createdRun ++ [])) with
  | error e w' => rw [hreturns] at hrest; cases hrest
  | ok changed w' =>
    rw [hreturns] at hrest
    obtain ⟨inv, hinv, hany⟩ := (Option.any_eq_true _ _).mp hrest
    obtain ⟨htlc, hmem, hstate⟩ := List.any_eq_true.mp hany
    obtain ⟨hkey, haccepted⟩ := of_decide_eq_true hstate
    exact ⟨invoice, changed, w', inv, htlc, hinvoice, of_decide_eq_true hnew, hreturns, hinv, hmem, hkey,
      haccepted⟩

theorem accepted_outlives_locktime_created :
    ((afterBlocks createdRun).heap 0).locktime + (MIN_FINAL_CLTV_DELTA_ACCEPTED - LOCKTIME_DELTA_REFUND)
      ≤ 900010 + 150 := by
  obtain ⟨invoice, changed, w', inv, htlc, hinvoice, hnew, hreturns, hinv, hmem, hkey, haccepted⟩ :=
    accepted_created
  exact accepted_outlives_locktime createdRun [] 900010 tenLater
    (some (List.replicate 32 6)) (htlcFor 1 paymentHash 49728000)
    ⟨by decide +kernel, by decide +kernel⟩ 0 (by decide +kernel) invoice hinvoice hnew changed w' hreturns
    inv hinv htlc hmem hkey haccepted

end Sample

end SubswapProvider
