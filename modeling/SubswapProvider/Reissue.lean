import SubswapProvider.Frame

/-!
# Reusing a payment hash

A client names the payment hash of its swap. Whether the hash is taken is asked of lightningd
(`listinvoices`), which does not know the hold invoices of the plugin: `signinvoice` signs them
without storing them. The plugin's own tables are not asked, so a hash in use is refused exactly
when lightningd happens to have an invoice of its own for it (`createNormalSwap_refuses_iff`).
-/

namespace SubswapProvider

open Deployment Effect

/-- The hash is the key of a stored hold invoice or of a stored swap. -/
def World.InUse (w : World) (payment_hash : Bytes) : Prop :=
  (w.getHoldInvoice payment_hash).isSome ∨ (w.swaps.get? (hex payment_hash)).isSome

/-- The tables a refused request must leave as they were. -/
structure SameTables (w w' : World) : Prop where
  holdInvoices : w'.holdInvoices = w.holdInvoices
  swaps : ∀ k, w'.swap? k = w.swap? k
  preimages : w'.preimages = w.preimages
  holdInvoiceCallbacks : w'.holdInvoiceCallbacks = w.holdInvoiceCallbacks

section

variable [Deployment]

/-- `create_normal_swap` refuses the hash as a duplicate and changes nothing. -/
def RefusedAsDuplicate (env : Env) (lightning_amount_sat : Int) (payment_hash their_pubkey : Bytes)
    (w : World) : Prop :=
  raises (createNormalSwap env lightning_amount_sat payment_hash their_pubkey) w
      = some .DuplicateInvoiceCreationError ∧
    SameTables w (final (createNormalSwap env lightning_amount_sat payment_hash their_pubkey) w)

/-- The request passes every step before the one that asks lightningd about its hash. -/
structure AsksLightningd (env : Env) (lightning_amount_sat : Int) (payment_hash : Bytes)
    (w : World) : Prop where
  amount : lightning_amount_sat ≠ 0
  height : env.localHeight.isSome = true
  pairs : w.pairs.isSome = true
  invoice_amount : 0 < (lightning_amount_sat - getClaimFee env * 2) * 1000
  payment_hash : payment_hash.length = 32

variable (env : Env)

/-! ## Which exceptions say "duplicate" -/

omit [Deployment] in
theorem raises_dbWrite : RaisesOnly (· = .StorageReadWriteError) (dbWrite env) :=
  RaisesOnly.get fun _ => RaisesOnly.bind RaisesOnly.modify fun _ =>
    RaisesOnly.ite
      (RaisesOnly.ite (RaisesOnly.ite (RaisesOnly.throw rfl) RaisesOnly.modify) RaisesOnly.pure)
      (RaisesOnly.ite (RaisesOnly.ite (RaisesOnly.throw rfl) RaisesOnly.modify) RaisesOnly.pure)

omit [Deployment] in
/-- `save_hold_invoice` says it never. -/
theorem raises_saveHoldInvoice (invoice : HoldInvoice) :
    RaisesOnly (· ≠ .DuplicateInvoiceCreationError) (saveHoldInvoice env invoice) :=
  RaisesOnly.bind RaisesOnly.modify fun _ =>
    (raises_dbWrite env).conseq (fun _ h => h) (fun _ _ h => h) fun e _ he => by
      rw [he]; decide

/-! ## The preimage of the prepay invoice stays -/

section Preimages

variable {J : Dict Hex Bytes → Prop}

omit [Deployment] in
theorem preimages_dbWrite : Keeps (fun w => J w.preimages) (dbWrite env) :=
  Keeps.get fun _ => Keeps.bind (Keeps.modify fun _ h => h) fun _ =>
    Keeps.ite
      (Keeps.ite (Keeps.ite Keeps.throw (Keeps.modify fun _ h => h)) Keeps.pure)
      (Keeps.ite (Keeps.ite Keeps.throw (Keeps.modify fun _ h => h)) Keeps.pure)

omit [Deployment] in
theorem preimages_saveHoldInvoice (invoice : HoldInvoice) :
    Keeps (fun w => J w.preimages) (saveHoldInvoice env invoice) := by
  refine Keeps.bind (Keeps.modify fun w h => ?_) fun _ => preimages_dbWrite env
  dsimp only [World.setHoldInvoice]
  split
  · exact h
  · exact h

theorem preimages_b11invoiceFromHash (payment_hash : Bytes) (amount_msat : Int) (message : String)
    (expiry : Nat) :
    Keeps (fun w => J w.preimages)
      (b11invoiceFromHash env payment_hash amount_msat message expiry) := by
  unfold b11invoiceFromHash
  exact Keeps.bind (keeps_pyAssert _) fun _ =>
    Keeps.bind (Keeps.ite Keeps.pure Keeps.throw) fun _ =>
    Keeps.bind (keeps_orRaise _ _) fun _ =>
    Keeps.bind (Keeps.ite Keeps.throw Keeps.pure) fun _ =>
    Keeps.bind (keeps_orRaise _ _) fun _ =>
    Keeps.bind (preimages_saveHoldInvoice env _) fun _ => Keeps.pure

omit [Deployment] in
theorem preimages_bundlePayments (swap_invoice prepay_invoice : Bytes) :
    Keeps (fun w => J w.preimages) (bundlePayments env swap_invoice prepay_invoice) := by
  unfold bundlePayments
  refine Keeps.get fun w => ?_
  split
  · exact Keeps.throw
  · refine Keeps.bind (Keeps.modify fun s h => ?_) fun _ =>
      Keeps.bind (Keeps.ite Keeps.throw Keeps.pure) fun _ => preimages_saveHoldInvoice env _
    dsimp only [World.popHoldInvoice]
    split
    · exact h
    · exact h

omit [Deployment] in
theorem preimages_addOrReindexSwap (ref : SwapRef) :
    Keeps (fun w => J w.preimages) (addOrReindexSwap ref) :=
  Keeps.get fun _ => Keeps.ite Keeps.pure (Keeps.modify fun _ h => h)

/-- `create_payment_info` leaves the preimage of its hash in the table. -/
theorem createPaymentInfo_preimages :
    Triple (fun _ => True) (createPaymentInfo env)
      (fun _ w => w.preimages.get? (hex (sha256 env.urandomPreimage)) = some env.urandomPreimage)
      (fun e _ => e ≠ .DuplicateInvoiceCreationError) := by
  dsimp only [createPaymentInfo, savePreimage]
  rw [if_neg (by simp)]
  refine Triple.bind (R := fun _ w =>
    w.preimages.get? (hex (sha256 env.urandomPreimage)) = some env.urandomPreimage) ?_
    fun _ => Triple.pure fun _ h => h
  refine Triple.bind (R := fun _ w =>
    w.preimages.get? (hex (sha256 env.urandomPreimage)) = some env.urandomPreimage)
    (Triple.modify fun w _ => ?_) fun _ => ?_
  · unfold World.setPreimage
    split
    · assumption
    · exact Dict.get?_set_self _ _ _
  · intro w hw
    have hkeeps := (raises_dbWrite env).and (preimages_dbWrite env
      (J := fun T => T.get? (hex (sha256 env.urandomPreimage)) = some env.urandomPreimage))
    exact (hkeeps.conseq (fun _ h => h) (fun _ _ h => h) fun e _ h => by rw [h.1]; decide) w hw

end Preimages

/-! ## The refusal -/

/-- `b11invoice_from_hash` says "duplicate" only when lightningd has an invoice for the hash. -/
theorem b11invoiceFromHash_duplicate (payment_hash : Bytes) (amount_msat : Int) (message : String)
    (expiry : Nat) :
    Triple (fun _ => True) (b11invoiceFromHash env payment_hash amount_msat message expiry)
      (fun _ _ => True)
      (fun e _ => e = .DuplicateInvoiceCreationError → 0 < amount_msat ∧ payment_hash.length = 32 ∧
        ∃ n, env.listinvoices payment_hash = some n ∧ 0 < n) := by
  unfold b11invoiceFromHash
  refine triple_pyAssert (fun _ _ h => by cases h) fun hamount => ?_
  refine triple_raiseUnless (fun _ _ h => by cases h) fun hlength => ?_
  refine triple_orRaise (fun _ _ h => by cases h) fun existing hexisting => ?_
  refine triple_raiseIf (fun hpos _ _ _ => ?_) fun hnone => ?_
  · exact ⟨by simpa using hamount, hlength, existing, hexisting, hpos⟩
  · refine triple_orRaise (fun _ _ h => by cases h) fun signed hsigned => ?_
    refine Triple.bind (R := fun _ _ => True) ?_ fun _ => Triple.pure fun _ _ => trivial
    exact (raises_saveHoldInvoice env _).conseq (fun _ h => h) (fun _ _ h => h)
      fun e _ hne he => absurd he hne

/-- A request that ends as a duplicate either asked lightningd and was told of an invoice, or went
past that and stored a preimage. -/
theorem createNormalSwap_duplicate (lightning_amount_sat : Int) (payment_hash their_pubkey : Bytes)
    (w : World) :
    Triple (· = w) (createNormalSwap env lightning_amount_sat payment_hash their_pubkey)
      (fun _ _ => True)
      (fun e s => e = .DuplicateInvoiceCreationError →
        (AsksLightningd env lightning_amount_sat payment_hash w ∧
          ∃ n, env.listinvoices payment_hash = some n ∧ 0 < n) ∨
        s.preimages.get? (hex (sha256 env.urandomPreimage)) = some env.urandomPreimage) := by
  let J : Dict Hex Bytes → Prop := fun T =>
    T.get? (hex (sha256 env.urandomPreimage)) = some env.urandomPreimage
  unfold createNormalSwap
  refine triple_pyAssert (fun _ _ h => by cases h) fun hamount => ?_
  refine triple_orRaise (fun _ _ h => by cases h) fun height hheight => ?_
  refine triple_getRecvAmount (fun _ _ h => by cases h) fun p => ?_
  refine Triple.bind (R := fun _ _ => True) ?_ fun created => fun _ _ => trivial
  unfold addNormalSwap
  refine Triple.bind (R := fun _ _ => True) ?_ fun invoice => ?_
  · intro s hs
    refine (b11invoiceFromHash_duplicate env _ _ _ _).conseq (fun _ h => h) (fun _ _ h => h)
      (fun e s' he hdup => ?_) s trivial
    obtain ⟨hpos, hlength, hlisted⟩ := he hdup
    refine .inl ⟨⟨by simpa using hamount, by rw [hheight]; rfl, ?_, hpos, hlength⟩, hlisted⟩
    rw [← hs.1, hs.2]
    rfl
  · refine Triple.bind (createPaymentInfo_preimages env |>.conseq (fun _ h => h) (fun _ _ h => h)
      fun e _ hne he => absurd he hne) fun prepay_hash => ?_
    refine Triple.conseq (R := fun w => J w.preimages) (S := fun _ w => J w.preimages)
      (F := fun _ w => J w.preimages) ?_ (fun _ h => h) (fun _ _ _ => trivial)
      fun _ _ h _ => .inr h
    exact Keeps.bind (preimages_b11invoiceFromHash env _ _ _ _) fun _ =>
      Keeps.bind (preimages_bundlePayments env _ _) fun _ =>
      Keeps.bind (keeps_orRaise _ _) fun _ =>
      Keeps.get fun _ =>
      Keeps.bind (Keeps.modify fun _ h => h) fun _ =>
      Keeps.bind (preimages_addOrReindexSwap _) fun _ =>
      Keeps.bind (Keeps.ite Keeps.pure Keeps.throw) fun _ =>
      Keeps.bind (Keeps.modify fun _ h => h) fun _ => Keeps.pure

/-- Told of an invoice, the request ends as a duplicate at once. -/
theorem createNormalSwap_listed {lightning_amount_sat : Int} {payment_hash : Bytes} {w : World}
    (hasks : AsksLightningd env lightning_amount_sat payment_hash w) {n : Nat}
    (hn : env.listinvoices payment_hash = some n) (hpos : 0 < n) (their_pubkey : Bytes) :
    createNormalSwap env lightning_amount_sat payment_hash their_pubkey w
      = .error .DuplicateInvoiceCreationError w := by
  obtain ⟨height, hheight⟩ := Option.isSome_iff_exists.mp hasks.height
  obtain ⟨p, hp⟩ := Option.isSome_iff_exists.mp hasks.pairs
  have hb11 : ∀ message expiry, b11invoiceFromHash env payment_hash
      ((lightning_amount_sat - getClaimFee env * 2) * 1000) message expiry w
        = .error .DuplicateInvoiceCreationError w := by
    intro message expiry
    unfold b11invoiceFromHash
    rw [decide_eq_true hasks.invoice_amount, if_pos hasks.payment_hash, hn, pyAssert_true,
      orRaise_some, pure_bind, pure_bind, pure_bind, if_pos hpos]
    exact bind_error rfl
  have hrecv : getRecvAmount lightning_amount_sat true w
      = .ok (p.recvAmount lightning_amount_sat true) w := by
    unfold getRecvAmount
    rw [get_bind]
    simp only [hp]
    rfl
  unfold createNormalSwap
  rw [decide_eq_true hasks.amount, hheight, pyAssert_true, orRaise_some, pure_bind, pure_bind]
  refine (bind_ok hrecv).trans (bind_error ?_)
  unfold addNormalSwap
  exact bind_error (hb11 _ _)

/-- **A hash is refused exactly when lightningd has an invoice for it.** Whether the plugin's own
tables have it (`World.InUse`) plays no part. The random preimage of the prepay invoice is new. -/
theorem createNormalSwap_refuses_iff (lightning_amount_sat : Int)
    (payment_hash their_pubkey : Bytes) (w : World)
    (hfresh : w.preimages.get? (hex (sha256 env.urandomPreimage)) = none) :
    RefusedAsDuplicate env lightning_amount_sat payment_hash their_pubkey w ↔
      AsksLightningd env lightning_amount_sat payment_hash w ∧
        ∃ n, env.listinvoices payment_hash = some n ∧ 0 < n := by
  constructor
  · rintro ⟨hraises, hsame⟩
    have hdup := createNormalSwap_duplicate env lightning_amount_sat payment_hash their_pubkey w w
      rfl
    unfold raises at hraises
    unfold final at hsame
    cases hr : createNormalSwap env lightning_amount_sat payment_hash their_pubkey w with
    | ok a s => rw [hr] at hraises; cases hraises
    | error e s =>
      rw [hr] at hdup hraises hsame
      rcases hdup (Option.some.inj hraises) with h | h
      · exact h
      · rw [hsame.preimages, hfresh] at h
        cases h
  · rintro ⟨hasks, n, hn, hpos⟩
    have hrun := createNormalSwap_listed env hasks hn hpos their_pubkey
    unfold RefusedAsDuplicate raises final
    rw [hrun]
    exact ⟨rfl, rfl, fun _ => rfl, rfl, rfl⟩

end

section Sample

open Sample

attribute [local instance] Sample.deployment

/-- A request for a hash lightningd knows is refused. -/
theorem createNormalSwap_refuses_known :
    RefusedAsDuplicate { Sample.env with listinvoices := fun _ => some 1 } 50000 paymentHash []
      (runOf boot World.start) :=
  (createNormalSwap_refuses_iff _ _ _ _ _ (by decide +kernel)).mpr
    ⟨⟨by decide, by decide, by decide +kernel, by decide +kernel, by decide⟩, 1, rfl, by decide⟩

/-- A second request of a client for the hash of its first, unpaid, swap is not refused. -/
theorem createNormalSwap_reissues :
    ∃ w, Reachable (fun _ _ => True) w ∧ w.InUse paymentHash ∧
      Sample.env.listinvoices paymentHash = some 0 ∧
      ¬ RefusedAsDuplicate Sample.env 30000 paymentHash (3 :: List.replicate 32 4) w := by
  refine ⟨runOf (boot ++ [.request Sample.env (createswap 50000)]) World.start, reachable_runOf _,
    .inl (by decide +kernel), rfl, ?_⟩
  rintro ⟨hraises, -⟩
  have hreturns : raises (createNormalSwap Sample.env 30000 paymentHash (3 :: List.replicate 32 4))
      (runOf (boot ++ [.request Sample.env (createswap 50000)]) World.start) = none := by
    decide +kernel
  rw [hreturns] at hraises
  cases hraises

end Sample

end SubswapProvider
