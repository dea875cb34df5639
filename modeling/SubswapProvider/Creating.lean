import SubswapProvider.Reissue
import SubswapProvider.Responses
import SubswapProvider.Throughout
import SubswapProvider.Writing

/-!
# Creating swaps

`create_normal_swap` stores as it goes: the main invoice, the preimage of the mining fees, their
invoice, the main invoice again, the swap. Nothing undoes the earlier ones when a later call raises
(`swap_creation_atomic_iff`), and the limits on the amount are checked by a function whose answer
`None` nobody looks at (`only_within_limits_iff`). `create_reverse_swap` makes all its calls first.
-/

namespace SubswapProvider

open Deployment Effect

/-- What a request that raises must leave as it was. -/
structure Untouched (w w' : World) : Prop extends SameTables w w' where
  lnwatcherCallbacks : w'.lnwatcherCallbacks = w.lnwatcherCallbacks

theorem Untouched.refl (w : World) : Untouched w w := ⟨⟨rfl, fun _ => rfl, rfl, rfl⟩, rfl⟩

/-! ## Storing a hold invoice -/

namespace World

variable {w : World} {invoice : HoldInvoice} {h : Bytes}

variable (w invoice) in
/-- What is found under the hash of the invoice is stored like it. -/
theorem getHoldInvoice_set :
    ∃ inv, (w.setHoldInvoice invoice).getHoldInvoice invoice.paymentHash = some inv ∧
      inv.stored = invoice.stored := by
  unfold getHoldInvoice
  dsimp only [setHoldInvoice]
  split
  · next hsame => exact Option.map_eq_some_iff.mp hsame
  · exact ⟨invoice, (HoldInvoices.get?_set _ _ _).trans (if_pos rfl), rfl⟩

theorem getHoldInvoice_set_ne (hne : h ≠ invoice.paymentHash) :
    (w.setHoldInvoice invoice).getHoldInvoice h = w.getHoldInvoice h := by
  unfold getHoldInvoice
  dsimp only [setHoldInvoice]
  split
  · rfl
  · apply (HoldInvoices.get?_set _ _ _).trans
    rw [if_neg (by simpa using hne)]

theorem setHoldInvoice_calls : (w.setHoldInvoice invoice).db.calls = w.db.calls := by
  dsimp only [setHoldInvoice]
  split <;> rfl

theorem setHoldInvoice_preimages : (w.setHoldInvoice invoice).preimages = w.preimages := by
  dsimp only [setHoldInvoice]
  split <;> rfl

/-- An invoice for a new hash has to be written. -/
theorem setHoldInvoice_unwritten (hnone : w.getHoldInvoice invoice.paymentHash = none) :
    (w.setHoldInvoice invoice).db.pending = true ∧
      (w.setHoldInvoice invoice).db.modified = true := by
  unfold getHoldInvoice at hnone
  dsimp only [setHoldInvoice]
  rw [if_neg (by rw [hnone]; exact nofun)]
  exact ⟨rfl, rfl⟩

end World

/-- `save_hold_invoice`. -/
theorem triple_saveHoldInvoice (env : Env) (invoice : HoldInvoice) (w : World) :
    Triple (· = w) (saveHoldInvoice env invoice)
      (fun _ s => (w.setHoldInvoice invoice).Wrote s ∧
        (w.getHoldInvoice invoice.paymentHash = none → env.writeFails w.db.calls = false))
      (fun _ s => (w.setHoldInvoice invoice).Wrote s ∧ env.writeFails w.db.calls = true) := by
  unfold saveHoldInvoice
  refine Triple.modifyBind (R := (· = w.setHoldInvoice invoice)) (fun s hs => hs ▸ rfl) ?_
  have hcalls : (w.setHoldInvoice invoice).db.calls = w.db.calls := World.setHoldInvoice_calls
  refine (triple_dbWrite env _).conseq (fun _ h => h)
    (fun _ s hs => ⟨hs.1, fun hnone => ?_⟩) fun _ s hs => ⟨hs.1, hcalls ▸ hs.2⟩
  obtain ⟨hpending, hmodified⟩ := World.setHoldInvoice_unwritten hnone
  exact hcalls ▸ hs.2 hpending hmodified

section

variable [Deployment]

/-! ## Issuing an invoice -/

/-- What `b11invoice_from_hash` has lightningd sign. -/
def unsignedInvoice (env : Env) (payment_hash : Bytes) (amount_msat : Int) (message : String)
    (expiry : Nat) : LnAddr where
  paymenthash := payment_hash
  amountMsat := amount_msat
  minFinalCltvExpiry := MIN_FINAL_CLTV_DELTA_FOR_INVOICE
  description := message
  expiry := expiry
  date := env.now
  paymentSecret := getPaymentSecret payment_hash

/-- `b11invoice_from_hash` gets to storing the invoice. -/
structure Issues (env : Env) (payment_hash : Bytes) (amount_msat : Int) (message : String)
    (expiry : Nat) : Prop where
  amount : 0 < amount_msat
  length : payment_hash.length = 32
  unlisted : env.listinvoices payment_hash = some 0
  signed : (env.signinvoice (unsignedInvoice env payment_hash amount_msat message expiry)).isSome

/-- **Spec of `b11invoice_from_hash`.** Before it stores its invoice it changes nothing. -/
theorem triple_b11invoiceFromHash (env : Env) (payment_hash : Bytes) (amount_msat : Int)
    (message : String) (expiry : Nat) (w : World) :
    Triple (· = w) (b11invoiceFromHash env payment_hash amount_msat message expiry)
      (fun invoice s => Issues env payment_hash amount_msat message expiry ∧
        invoice.paymentHash = payment_hash ∧ invoice.associatedInvoice = none ∧
        (w.setHoldInvoice invoice).Wrote s ∧
        (w.getHoldInvoice payment_hash = none → env.writeFails w.db.calls = false))
      (fun _ s => (s = w ∧ ¬ Issues env payment_hash amount_msat message expiry) ∨
        (Issues env payment_hash amount_msat message expiry ∧ env.writeFails w.db.calls = true ∧
          ∃ invoice, invoice.paymentHash = payment_hash ∧ invoice.associatedInvoice = none ∧
            (w.setHoldInvoice invoice).Wrote s)) := by
  unfold b11invoiceFromHash
  by_cases hissues : Issues env payment_hash amount_msat message expiry
  · obtain ⟨hamount, hlength, hunlisted, hsigned⟩ := id hissues
    obtain ⟨signed, hsigned⟩ := Option.isSome_iff_exists.mp hsigned
    unfold unsignedInvoice at hsigned
    rw [decide_eq_true hamount, if_pos hlength, hunlisted, pyAssert_true, pure_bind, pure_bind,
      orRaise_some, pure_bind, if_neg (Nat.lt_irrefl 0), pure_bind]
    dsimp only
    rw [hsigned, orRaise_some, pure_bind]
    let invoice := HoldInvoice.new payment_hash signed amount_msat expiry env.now
    refine Triple.bind (R := fun _ s => (w.setHoldInvoice invoice).Wrote s ∧
      (w.getHoldInvoice payment_hash = none → env.writeFails w.db.calls = false)) ?_ fun _ => ?_
    · exact (triple_saveHoldInvoice env invoice w).conseq (fun _ h => h) (fun _ _ hs => hs)
        fun _ s hs => .inr ⟨hissues, hs.2, invoice, rfl, rfl, hs.1⟩
    · exact Triple.pure fun s hs => ⟨hissues, rfl, rfl, hs.1, hs.2⟩
  · -- a call that raises leaves everything as it was
    refine Triple.conseq (S := fun _ _ => False) (F := fun _ s => s = w) ?_ (fun _ h => h)
      (fun _ _ h => h.elim) fun _ _ hs => .inl ⟨hs, hissues⟩
    refine triple_pyAssert (fun _ hs => hs) fun hamount => ?_
    refine triple_raiseUnless (fun _ hs => hs) fun hlength => ?_
    refine triple_orRaise (fun _ hs => hs) fun existing hexisting => ?_
    refine triple_raiseIf (fun _ _ hs => hs) fun hnone => ?_
    refine triple_orRaise (fun _ hs => hs) fun signed hsigned => ?_
    refine absurd ⟨of_decide_eq_true hamount, hlength, ?_, ?_⟩ hissues
    · rw [hexisting, Nat.eq_zero_of_not_pos hnone]
    · exact Option.isSome_iff_exists.mpr ⟨signed, hsigned⟩

/-! ## The fees, the bundle and the swap -/

theorem triple_createPaymentInfo (env : Env) (w : World) :
    Triple (· = w) (createPaymentInfo env)
      (fun prepay_hash s => prepay_hash = sha256 env.urandomPreimage ∧
        (w.setPreimage (hex prepay_hash) env.urandomPreimage).Wrote s ∧
        (w.preimages.get? (hex prepay_hash) = none → env.writeFails w.db.calls = false))
      (fun _ s => (w.setPreimage (hex (sha256 env.urandomPreimage)) env.urandomPreimage).Wrote s ∧
        env.writeFails w.db.calls = true) := by
  let k := hex (sha256 env.urandomPreimage)
  have hcalls : (w.setPreimage k env.urandomPreimage).db.calls = w.db.calls := by
    unfold World.setPreimage
    split <;> rfl
  have hunwritten : w.preimages.get? k = none →
      (w.setPreimage k env.urandomPreimage).db.pending = true ∧
        (w.setPreimage k env.urandomPreimage).db.modified = true := by
    intro hnone
    unfold World.setPreimage
    rw [if_neg (by rw [hnone]; exact fun h => by cases h)]
    exact ⟨rfl, rfl⟩
  dsimp only [createPaymentInfo, savePreimage]
  rw [if_neg (by simp)]
  refine Triple.bind (R := fun _ s => (w.setPreimage k env.urandomPreimage).Wrote s ∧
    (w.preimages.get? k = none → env.writeFails w.db.calls = false)) ?_ fun _ =>
    Triple.pure fun s hs => ⟨rfl, hs⟩
  refine Triple.modifyBind (R := (· = w.setPreimage k env.urandomPreimage)) (fun s hs => hs ▸ rfl) ?_
  refine (triple_dbWrite env _).conseq (fun _ h => h)
    (fun _ s hs => ⟨hs.1, fun hnone => ?_⟩) fun _ s hs => ⟨hs.1, hcalls ▸ hs.2⟩
  obtain ⟨hpending, hmodified⟩ := hunwritten hnone
  exact hcalls ▸ hs.2 hpending hmodified

omit [Deployment] in
/-- Attaching the prepay invoice to an invoice that has none. -/
theorem triple_bundlePayments (env : Env) {w : World} {h prepay_hash : Bytes} {inv : HoldInvoice}
    (hinv : w.getHoldInvoice h = some inv) (hnone : inv.associatedInvoice = none) :
    Triple (· = w) (bundlePayments env h prepay_hash)
      (fun _ s => (s.getHoldInvoice h).isSome = true ∧ s.db.calls = w.db.calls + 1 ∧
        env.writeFails w.db.calls = false)
      (fun _ s => (s.getHoldInvoice h).isSome = true ∧ env.writeFails w.db.calls = true) := by
  let bundled : HoldInvoice := { inv with associatedInvoice := some prepay_hash }
  let popped := w.popHoldInvoice (hex h)
  have hkey : inv.paymentHash = h := by simpa using HoldInvoices.hex_paymentHash hinv
  have hpop : popped.db.calls = w.db.calls := by
    dsimp only [popped]
    unfold World.popHoldInvoice
    split <;> rfl
  have hgone : popped.getHoldInvoice bundled.paymentHash = none := by
    dsimp only [popped]
    unfold World.popHoldInvoice
    rw [if_pos (by rw [show w.holdInvoices.get? (hex h) = some inv from hinv]; rfl)]
    show (w.holdInvoices.pop (hex h)).get? (hex inv.paymentHash) = none
    rw [HoldInvoices.get?_pop, hkey, if_pos rfl]
  have hfound : ∀ s, (popped.setHoldInvoice bundled).Wrote s → (s.getHoldInvoice h).isSome = true ∧
      s.db.calls = w.db.calls + 1 := by
    rintro s ⟨db, views, rfl, hcalls⟩
    obtain ⟨inv', hinv', -⟩ := World.getHoldInvoice_set popped bundled
    refine ⟨?_, ?_⟩
    · show ((popped.setHoldInvoice bundled).getHoldInvoice h).isSome = true
      rw [← hkey]
      exact Option.isSome_iff_exists.mpr ⟨inv', hinv'⟩
    · exact hcalls.trans (by rw [World.setHoldInvoice_calls, hpop])
  unfold bundlePayments
  refine Triple.getBind fun w' hw' => ?_
  subst hw'
  rw [hinv]
  refine Triple.modifyBind (R := (· = popped)) (fun s hs => hs ▸ rfl) ?_
  rw [hnone, Option.isSome_none, if_neg Bool.false_ne_true, pure_bind]
  refine (triple_saveHoldInvoice env bundled popped).conseq (fun _ h => h) (fun _ s hs => ?_)
    fun _ s hs => ⟨(hfound s hs.1).1, hpop ▸ hs.2⟩
  exact ⟨(hfound s hs.1).1, (hfound s hs.1).2, hpop ▸ hs.2 hgone⟩

/-- The payment hashes of a `createswap` are new. -/
structure FreshHashes (payment_hash prepay_hash : Bytes) (w : World) : Prop where
  invoice : w.getHoldInvoice payment_hash = none
  prepay_invoice : w.getHoldInvoice prepay_hash = none
  prepay_preimage : w.preimages.get? (hex prepay_hash) = none
  distinct : prepay_hash ≠ payment_hash

/-- The invoice for the mining fees is issued. -/
def IssuesPrepay (env : Env) : Prop :=
  Issues env (sha256 env.urandomPreimage) ((getClaimFee env * 2 : Int) * 1000)
    "Submarine swap mining fees" 300

/-- Every call of `add_normal_swap` behind the main invoice is answered. -/
structure CallsAnswer (env : Env) (lockup_address : Address) (w : World) : Prop where
  writes : ∀ i < 4, env.writeFails (w.db.calls + i) = false
  prepay : IssuesPrepay env
  newaddr : env.newaddr.isSome = true
  imported : env.importdescriptors lockup_address = true

/-- The main invoice is stored, without a prepay invoice yet, and `n` writes have been made. -/
structure MainStored (payment_hash : Bytes) (w : World) (n : Nat) (s : World) : Prop where
  calls : s.db.calls = w.db.calls + n
  main : ∃ inv, s.getHoldInvoice payment_hash = some inv ∧ inv.associatedInvoice = none

section

variable {env : Env} {payment_hash : Bytes} {w s s' : World} {n : Nat} {invoice : HoldInvoice}

omit [Deployment] in
/-- A fresh invoice has been stored, under the main hash or under another one. -/
theorem MainStored.set (h : MainStored payment_hash w n s) (hnone : invoice.associatedInvoice = none)
    (hwrote : (s.setHoldInvoice invoice).Wrote s') : MainStored payment_hash w (n + 1) s' := by
  obtain ⟨db, views, rfl, hcalls⟩ := hwrote
  refine ⟨?_, ?_⟩
  · show db.calls = _
    rw [hcalls, World.setHoldInvoice_calls, h.calls]
    rfl
  · show ∃ inv, (s.setHoldInvoice invoice).getHoldInvoice payment_hash = some inv ∧ _
    by_cases hhash : payment_hash = invoice.paymentHash
    · obtain ⟨inv, hinv, hstored⟩ := World.getHoldInvoice_set s invoice
      refine ⟨inv, hhash ▸ hinv, ?_⟩
      exact (congrArg HoldInvoice.associatedInvoice hstored).trans hnone
    · rw [World.getHoldInvoice_set_ne hhash]
      exact h.main

omit [Deployment] in
theorem MainStored.first (hhash : invoice.paymentHash = payment_hash)
    (hnone : invoice.associatedInvoice = none) (hwrote : (w.setHoldInvoice invoice).Wrote s) :
    MainStored payment_hash w 1 s := by
  obtain ⟨db, views, rfl, hcalls⟩ := hwrote
  refine ⟨?_, ?_⟩
  · exact hcalls.trans (by rw [World.setHoldInvoice_calls])
  · obtain ⟨inv, hinv, hstored⟩ := World.getHoldInvoice_set w invoice
    exact ⟨inv, hhash ▸ hinv, (congrArg HoldInvoice.associatedInvoice hstored).trans hnone⟩

omit [Deployment] in
theorem MainStored.setPreimage {k : Hex} {v : Bytes} (h : MainStored payment_hash w n s)
    (hwrote : (s.setPreimage k v).Wrote s') : MainStored payment_hash w (n + 1) s' := by
  obtain ⟨db, views, rfl, hcalls⟩ := hwrote
  have hset : (s.setPreimage k v).db.calls = s.db.calls ∧
      (s.setPreimage k v).holdInvoices = s.holdInvoices := by
    unfold World.setPreimage
    split
    · exact ⟨rfl, rfl⟩
    · exact ⟨rfl, rfl⟩
  refine ⟨?_, ?_⟩
  · show db.calls = _
    rw [hcalls, hset.1, h.calls]
    rfl
  · obtain ⟨inv, hinv, hnone⟩ := h.main
    refine ⟨inv, ?_, hnone⟩
    show (s.setPreimage k v).holdInvoices.get? (hex payment_hash) = some inv
    rw [hset.2]
    exact hinv

omit [Deployment] in
theorem MainStored.isSome (h : MainStored payment_hash w n s) :
    (s.getHoldInvoice payment_hash).isSome = true := by
  obtain ⟨inv, hinv, -⟩ := h.main
  rw [hinv]
  rfl

end

/-! ## Stage by stage -/

/-- The main invoice of a swap of some size is issued. -/
def IssuesMain (env : Env) (lightning_amount_sat : Int) (payment_hash : Bytes) : Prop :=
  Issues env payment_hash ((lightning_amount_sat - getClaimFee env * 2) * 1000) "Submarine swap" 300

/-- `add_normal_swap` has made `n` writes. -/
structure Stage (env : Env) (lightning_amount_sat : Int) (payment_hash : Bytes) (w : World) (n : Nat)
    (s : World) : Prop extends MainStored payment_hash w n s where
  issues : IssuesMain env lightning_amount_sat payment_hash
  writes : FreshHashes payment_hash (sha256 env.urandomPreimage) w →
    ∀ i < n, env.writeFails (w.db.calls + i) = false

/-- `add_normal_swap` has raised with the main invoice stored. -/
structure Stuck (env : Env) (lightning_amount_sat : Int) (payment_hash : Bytes)
    (lockup_address : Address) (w s : World) : Prop where
  issues : IssuesMain env lightning_amount_sat payment_hash
  unanswered : ¬ CallsAnswer env lockup_address w
  stored : (s.getHoldInvoice payment_hash).isSome = true

section

variable {env : Env} {lightning_amount_sat : Int} {payment_hash : Bytes} {lockup_address : Address}
variable {w s s' : World} {n : Nat}

theorem Stage.wrote (h : Stage env lightning_amount_sat payment_hash w n s)
    (hmain : MainStored payment_hash w (n + 1) s')
    (hwrite : FreshHashes payment_hash (sha256 env.urandomPreimage) w →
      env.writeFails s.db.calls = false) :
    Stage env lightning_amount_sat payment_hash w (n + 1) s' where
  toMainStored := hmain
  issues := h.issues
  writes hfresh i hi := by
    rcases Nat.lt_succ_iff_lt_or_eq.mp hi with hi | rfl
    · exact h.writes hfresh i hi
    · rw [← h.calls]
      exact hwrite hfresh

/-- The next write fails. -/
theorem Stage.stuck (h : Stage env lightning_amount_sat payment_hash w n s) (hn : n < 4)
    (hfails : env.writeFails s.db.calls = true)
    (hstored : (s'.getHoldInvoice payment_hash).isSome = true) :
    Stuck env lightning_amount_sat payment_hash lockup_address w s' where
  issues := h.issues
  unanswered hanswer := by
    rw [h.calls, hanswer.writes n hn] at hfails
    cases hfails
  stored := hstored

variable (env lightning_amount_sat payment_hash lockup_address w)

/-- The main invoice. -/
theorem stage_main :
    Triple (· = w) (b11invoiceFromHash env payment_hash
        ((lightning_amount_sat - getClaimFee env * 2) * 1000) "Submarine swap" 300)
      (fun invoice s => invoice.paymentHash = payment_hash ∧
        Stage env lightning_amount_sat payment_hash w 1 s ∧
        (FreshHashes payment_hash (sha256 env.urandomPreimage) w →
          s.getHoldInvoice (sha256 env.urandomPreimage) = none ∧
            s.preimages.get? (hex (sha256 env.urandomPreimage)) = none))
      (fun _ s => (s = w ∧ ¬ IssuesMain env lightning_amount_sat payment_hash) ∨
        Stuck env lightning_amount_sat payment_hash lockup_address w s) := by
  refine (triple_b11invoiceFromHash env _ _ _ _ w).conseq (fun _ h => h) ?_ ?_
  · rintro invoice s ⟨hissues, hhash, hnone, hwrote, hwrite⟩
    refine ⟨hhash, ⟨.first hhash hnone hwrote, hissues, fun hfresh i hi => ?_⟩, fun hfresh => ?_⟩
    · rw [Nat.lt_one_iff.mp hi]
      exact hwrite hfresh.invoice
    · obtain ⟨db, views, rfl, -⟩ := hwrote
      refine ⟨?_, ?_⟩
      · apply (World.getHoldInvoice_set_ne (hhash ▸ hfresh.distinct)).trans
        exact hfresh.prepay_invoice
      · show (w.setHoldInvoice invoice).preimages.get? _ = none
        rw [World.setHoldInvoice_preimages]
        exact hfresh.prepay_preimage
  · rintro e s (⟨hs, hnot⟩ | ⟨hissues, hfails, invoice, hhash, hnone, hwrote⟩)
    · exact .inl ⟨hs, hnot⟩
    · refine .inr ⟨hissues, fun hanswer => ?_, (MainStored.first hhash hnone hwrote).isSome⟩
      have hwrite := hanswer.writes 0 (by omega)
      rw [Nat.add_zero, hfails] at hwrite
      cases hwrite

/-- The preimage of the fees. -/
theorem stage_preimage :
    Triple (fun s => Stage env lightning_amount_sat payment_hash w 1 s ∧
        (FreshHashes payment_hash (sha256 env.urandomPreimage) w →
          s.getHoldInvoice (sha256 env.urandomPreimage) = none ∧
            s.preimages.get? (hex (sha256 env.urandomPreimage)) = none))
      (createPaymentInfo env)
      (fun hash s => hash = sha256 env.urandomPreimage ∧
        Stage env lightning_amount_sat payment_hash w 2 s ∧
        (FreshHashes payment_hash (sha256 env.urandomPreimage) w →
          s.getHoldInvoice (sha256 env.urandomPreimage) = none))
      (fun _ => Stuck env lightning_amount_sat payment_hash lockup_address w) := by
  refine Triple.at fun s hs => ?_
  obtain ⟨hstage, hfresh⟩ := hs
  refine (triple_createPaymentInfo env s).conseq (fun _ h => h) ?_ ?_
  · rintro hash s' ⟨rfl, hwrote, hwrite⟩
    refine ⟨rfl, hstage.wrote (hstage.setPreimage hwrote) fun hf => hwrite (hfresh hf).2, ?_⟩
    intro hf
    obtain ⟨db, views, rfl, -⟩ := hwrote
    have hsame : ∀ k v, (s.setPreimage k v).holdInvoices = s.holdInvoices := by
      intro k v
      unfold World.setPreimage
      split <;> rfl
    show (s.setPreimage _ _).holdInvoices.get? _ = none
    rw [hsame]
    exact (hfresh hf).1
  · rintro e s' ⟨hwrote, hfails⟩
    exact hstage.stuck (by omega) hfails (hstage.setPreimage hwrote).isSome

/-- The invoice for the fees. -/
theorem stage_prepay :
    Triple (fun s => Stage env lightning_amount_sat payment_hash w 2 s ∧
        (FreshHashes payment_hash (sha256 env.urandomPreimage) w →
          s.getHoldInvoice (sha256 env.urandomPreimage) = none))
      (b11invoiceFromHash env (sha256 env.urandomPreimage) ((getClaimFee env * 2 : Int) * 1000)
        "Submarine swap mining fees" 300)
      (fun _ s => IssuesPrepay env ∧ Stage env lightning_amount_sat payment_hash w 3 s)
      (fun _ => Stuck env lightning_amount_sat payment_hash lockup_address w) := by
  refine Triple.at fun s hs => ?_
  obtain ⟨hstage, hfresh⟩ := hs
  refine (triple_b11invoiceFromHash env _ _ _ _ s).conseq (fun _ h => h) ?_ ?_
  · rintro prepay s' ⟨hprepay, -, hnone, hwrote, hwrite⟩
    exact ⟨hprepay, hstage.wrote (hstage.set hnone hwrote) fun hf => hwrite (hfresh hf)⟩
  · rintro e s' (⟨rfl, hnot⟩ | ⟨-, hfails, prepay, -, hnone, hwrote⟩)
    · exact ⟨hstage.issues, fun hanswer => hnot hanswer.prepay, hstage.isSome⟩
    · exact hstage.stuck (by omega) hfails (hstage.set hnone hwrote).isSome

/-- The two in one. -/
theorem stage_bundle (prepay_hash : Bytes) :
    Triple (fun s => Stage env lightning_amount_sat payment_hash w 3 s)
      (bundlePayments env payment_hash prepay_hash)
      (fun _ s => IssuesMain env lightning_amount_sat payment_hash ∧
        (s.getHoldInvoice payment_hash).isSome = true ∧
        (FreshHashes payment_hash (sha256 env.urandomPreimage) w →
          ∀ i < 4, env.writeFails (w.db.calls + i) = false))
      (fun _ => Stuck env lightning_amount_sat payment_hash lockup_address w) := by
  refine Triple.at fun s hstage => ?_
  obtain ⟨inv, hinv, hnone⟩ := hstage.main
  refine (triple_bundlePayments env hinv hnone).conseq (fun _ h => h) ?_ ?_
  · rintro _ s' ⟨hsome, -, hwrite⟩
    refine ⟨hstage.issues, hsome, fun hfresh i hi => ?_⟩
    rcases Nat.lt_succ_iff_lt_or_eq.mp hi with hi | rfl
    · exact hstage.writes hfresh i hi
    · rw [← hstage.calls]
      exact hwrite
  · rintro e s' ⟨hsome, hfails⟩
    exact hstage.stuck (by omega) hfails hsome

/-- **Where `add_normal_swap` raises.** Before the main invoice is stored nothing has changed; behind
it some call has failed, and the invoice stays. -/
theorem triple_addNormalSwap (redeem_script : Bytes) (locktime : Nat)
    (onchain_amount_sat : Option Int) (our_privkey : Bytes) :
    Triple (· = w) (addNormalSwap env redeem_script locktime onchain_amount_sat lightning_amount_sat
        payment_hash our_privkey)
      (fun _ _ => IssuesMain env lightning_amount_sat payment_hash ∧
        (FreshHashes payment_hash (sha256 env.urandomPreimage) w →
          CallsAnswer env (scriptToP2wsh redeem_script) w))
      (fun _ s => (s = w ∧ ¬ IssuesMain env lightning_amount_sat payment_hash) ∨
        Stuck env lightning_amount_sat payment_hash (scriptToP2wsh redeem_script) w s) := by
  let lockup_address := scriptToP2wsh redeem_script
  unfold addNormalSwap
  refine Triple.bind (stage_main env lightning_amount_sat payment_hash lockup_address w)
    fun invoice => Triple.of_const_and fun hhash => ?_
  -- from here on every exception finds the main invoice stored
  refine Triple.conseq (S := fun _ _ => IssuesMain env lightning_amount_sat payment_hash ∧
      (FreshHashes payment_hash (sha256 env.urandomPreimage) w → CallsAnswer env lockup_address w))
    (F := fun _ => Stuck env lightning_amount_sat payment_hash lockup_address w) ?_
    (fun _ h => h) (fun _ _ h => h) fun _ _ h => .inr h
  rw [hhash]
  refine Triple.bind (stage_preimage env lightning_amount_sat payment_hash lockup_address w)
    fun hash => Triple.of_const_and fun hprepay_hash => ?_
  subst hprepay_hash
  refine Triple.bind (stage_prepay env lightning_amount_sat payment_hash lockup_address w)
    fun prepay => Triple.of_const_and fun hprepay => ?_
  refine Triple.bind (stage_bundle env lightning_amount_sat payment_hash lockup_address w _)
    fun _ => Triple.of_const_and fun hissues => ?_
  have hstuck : ¬ CallsAnswer env lockup_address w → ∀ s, ((s.getHoldInvoice payment_hash).isSome = true ∧
      (FreshHashes payment_hash (sha256 env.urandomPreimage) w →
        ∀ i < 4, env.writeFails (w.db.calls + i) = false)) →
      Stuck env lightning_amount_sat payment_hash lockup_address w s :=
    fun hnot s hs => ⟨hissues, hnot, hs.1⟩
  cases hnewaddr : env.newaddr with
  | none =>
    refine Triple.throw (hstuck fun hanswer => ?_)
    have := hanswer.newaddr
    rw [hnewaddr] at this
    cases this
  | some receive_address =>
    rw [orRaise_some, pure_bind]
    refine Triple.getBind fun w' hw' => ?_
    refine Triple.modifyBind (R := fun s => (s.getHoldInvoice payment_hash).isSome = true ∧
      (FreshHashes payment_hash (sha256 env.urandomPreimage) w →
        ∀ i < 4, env.writeFails (w.db.calls + i) = false)) (fun s hs => by subst hs; exact hw') ?_
    refine Triple.bind (R := fun _ s => (s.getHoldInvoice payment_hash).isSome = true ∧
      (FreshHashes payment_hash (sha256 env.urandomPreimage) w →
        ∀ i < 4, env.writeFails (w.db.calls + i) = false)) ?_ fun _ => ?_
    · refine Triple.at fun s hs => Triple.getBind fun s' hs' => ?_
      subst hs'
      dsimp only
      split
      · exact Triple.pure fun _ hs' => hs' ▸ hs
      · exact Triple.modify fun _ hs' => by subst hs'; exact hs
    · unfold registerAddress
      by_cases himport : env.importdescriptors lockup_address = true
      · rw [if_pos himport, pure_bind]
        refine Triple.modifyBind (R := fun s => FreshHashes payment_hash (sha256 env.urandomPreimage) w →
          ∀ i < 4, env.writeFails (w.db.calls + i) = false) (fun _ hs => hs.2) (Triple.pure ?_)
        intro s hwrites
        exact ⟨hissues, fun hfresh => ⟨hwrites hfresh, hprepay, by rw [hnewaddr]; rfl, himport⟩⟩
      · rw [if_neg himport]
        exact Triple.throw (hstuck fun hanswer => himport hanswer.imported)

end

/-! ## The two creations -/

/-- `create_normal_swap` gets to storing the main invoice. -/
structure SavesInvoice (env : Env) (lightning_amount_sat : Int) (payment_hash : Bytes) (w : World) :
    Prop where
  amount : lightning_amount_sat ≠ 0
  height : env.localHeight.isSome = true
  pairs : w.pairs.isSome = true
  issues : IssuesMain env lightning_amount_sat payment_hash

/-- The lockup address of a normal swap made at a height. -/
def lockupAddressAt (env : Env) (payment_hash their_pubkey : Bytes) (height : Nat) : Address :=
  scriptToP2wsh (swapScript (ripemd payment_hash) their_pubkey (height + LOCKTIME_DELTA_REFUND)
    (publicKey env.urandomPrivkey))

/-- Every call of `create_normal_swap` behind the main invoice is answered. -/
def AnswersAll (env : Env) (payment_hash their_pubkey : Bytes) (w : World) : Prop :=
  ∀ height, env.localHeight = some height →
    CallsAnswer env (lockupAddressAt env payment_hash their_pubkey height) w

variable (env : Env) (lightning_amount_sat : Int) (payment_hash their_pubkey : Bytes) (w : World)

/-- **Where `create_normal_swap` raises.** -/
theorem triple_createNormalSwap :
    Triple (· = w) (createNormalSwap env lightning_amount_sat payment_hash their_pubkey)
      (fun _ _ => SavesInvoice env lightning_amount_sat payment_hash w ∧
        (FreshHashes payment_hash (sha256 env.urandomPreimage) w →
          AnswersAll env payment_hash their_pubkey w))
      (fun _ s => (s = w ∧ ¬ SavesInvoice env lightning_amount_sat payment_hash w) ∨
        (SavesInvoice env lightning_amount_sat payment_hash w ∧
          ¬ AnswersAll env payment_hash their_pubkey w ∧
          (s.getHoldInvoice payment_hash).isSome = true)) := by
  unfold createNormalSwap
  by_cases hamount : lightning_amount_sat = 0
  · rw [decide_eq_false (by simpa using hamount)]
    exact fun s hs => .inl ⟨hs, fun h => h.amount hamount⟩
  rw [decide_eq_true (by simpa using hamount), pyAssert_true, pure_bind]
  cases hheight : env.localHeight with
  | none =>
    refine fun s hs => .inl ⟨hs, fun h => ?_⟩
    have := h.height
    rw [hheight] at this
    cases this
  | some height =>
    rw [orRaise_some, pure_bind]
    rintro s rfl
    cases hpairs : s.pairs with
    | none =>
      have hrun : getRecvAmount lightning_amount_sat true s = .error .TypeError s := by
        unfold getRecvAmount
        rw [get_bind]
        simp only [hpairs]
        rfl
      dsimp only
      rw [bind_error hrun]
      refine .inl ⟨rfl, fun h => ?_⟩
      have := h.pairs
      rw [hpairs] at this
      cases this
    | some p =>
      have hrun : getRecvAmount lightning_amount_sat true s
          = .ok (p.recvAmount lightning_amount_sat true) s := by
        unfold getRecvAmount
        rw [get_bind]
        simp only [hpairs]
        rfl
      dsimp only
      rw [bind_ok hrun]
      have hsaves : IssuesMain env lightning_amount_sat payment_hash ↔
          SavesInvoice env lightning_amount_sat payment_hash s :=
        ⟨fun h => ⟨hamount, by rw [hheight]; rfl, by rw [hpairs]; rfl, h⟩, fun h => h.issues⟩
      have hanswers : CallsAnswer env (lockupAddressAt env payment_hash their_pubkey height) s ↔
          AnswersAll env payment_hash their_pubkey s := by
        constructor
        · intro h height' hheight'
          rw [hheight] at hheight'
          cases hheight'
          exact h
        · exact fun h => h height hheight
      refine Triple.bind (P := (· = s)) (R := fun _ _ => SavesInvoice env lightning_amount_sat payment_hash s ∧
        (FreshHashes payment_hash (sha256 env.urandomPreimage) s →
          AnswersAll env payment_hash their_pubkey s)) ?_ (fun created => ?_) s rfl
      · refine (triple_addNormalSwap env lightning_amount_sat payment_hash s _ _ _ _).conseq
          (fun _ h => h) (fun _ _ h => ⟨hsaves.mp h.1, fun hf => hanswers.mp (h.2 hf)⟩) ?_
        rintro e s' (⟨hs', hnot⟩ | hstuck)
        · exact .inl ⟨hs', fun h => hnot (hsaves.mpr h)⟩
        · exact .inr ⟨hsaves.mp hstuck.issues, fun h => hstuck.unanswered (hanswers.mpr h),
            hstuck.stored⟩
      · exact fun _ h => h

/-- `create_reverse_swap` makes its calls before its changes. -/
theorem triple_createReverseSwap :
    Triple (· = w) (createReverseSwap env lightning_amount_sat their_pubkey) (fun _ _ => True)
      (fun _ s => s = w) := by
  unfold createReverseSwap
  refine triple_orRaise (fun _ hs => hs) fun height _ => ?_
  refine Triple.bind (R := fun _ s => s = w) ?_ fun onchain_amount_sat => ?_
  · unfold getSendAmount
    refine Triple.getBind fun w' hw' => ?_
    subst hw'
    split
    · exact Triple.pure fun _ hs => hs
    · split
      · exact Triple.throw fun _ hs => hs
      · exact Triple.pure fun _ hs => hs
  · unfold addReverseSwap
    refine triple_orRaise (fun _ hs => hs) fun receive_address _ => ?_
    refine triple_raiseUnless (fun _ hs => hs) fun _ => ?_
    refine Triple.getBind fun w' hw' => ?_
    refine Triple.modifyBind (R := fun _ => True) (fun _ _ => trivial) ?_
    refine Triple.bind (R := fun _ _ => True) (Triple.getBind fun s _ => ?_) fun _ => ?_
    · dsimp only
      split
      · exact fun _ _ => trivial
      · exact fun _ _ => trivial
    · exact fun _ _ => trivial

/-- **Swap creation is atomic except where it is not.** With new payment hashes, `create_normal_swap`
leaves everything as it was on an exception exactly if it cannot raise behind its first save: it does
not get that far, or every later call is answered. `create_reverse_swap` always does. -/
theorem swap_creation_atomic_iff
    (hfresh : FreshHashes payment_hash (sha256 env.urandomPreimage) w) :
    ((raises (createNormalSwap env lightning_amount_sat payment_hash their_pubkey) w ≠ none →
        Untouched w (final (createNormalSwap env lightning_amount_sat payment_hash their_pubkey) w)) ↔
      (¬ SavesInvoice env lightning_amount_sat payment_hash w ∨
        AnswersAll env payment_hash their_pubkey w)) ∧
    (raises (createReverseSwap env lightning_amount_sat their_pubkey) w ≠ none →
      Untouched w (final (createReverseSwap env lightning_amount_sat their_pubkey) w)) := by
  have hnormal := triple_createNormalSwap env lightning_amount_sat payment_hash their_pubkey w w rfl
  have hreverse := triple_createReverseSwap env lightning_amount_sat their_pubkey w w rfl
  unfold raises final
  refine ⟨?_, ?_⟩
  · cases hr : createNormalSwap env lightning_amount_sat payment_hash their_pubkey w with
    | ok a s =>
      rw [hr] at hnormal
      exact ⟨fun _ => .inr (hnormal.2 hfresh), fun _ hraises => absurd rfl hraises⟩
    | error e s =>
      rw [hr] at hnormal
      rcases hnormal with ⟨rfl, hnot⟩ | ⟨hsaves, hnot, hstored⟩
      · exact ⟨fun _ => .inl hnot, fun _ _ => Untouched.refl s⟩
      · constructor
        · intro h
          -- the main invoice is still there
          have hsame := (h nofun).holdInvoices
          unfold World.getHoldInvoice at hstored
          rw [hsame, show w.holdInvoices.get? (hex payment_hash) = none from hfresh.invoice] at hstored
          cases hstored
        · rintro (h | h)
          · exact absurd hsaves h
          · exact absurd h hnot
  · cases hr : createReverseSwap env lightning_amount_sat their_pubkey w with
    | ok a s => exact fun hraises => absurd rfl hraises
    | error e s =>
      rw [hr] at hreverse
      cases hreverse
      exact fun _ => Untouched.refl _

end

section Sample

open Sample

attribute [local instance] Sample.deployment

/-- The plugin is up and has no swaps. -/
theorem Sample.fresh_boot :
    FreshHashes paymentHash (sha256 Sample.env.urandomPreimage) (runOf boot World.start) :=
  ⟨by decide +kernel, by decide +kernel, by decide +kernel, by decide⟩

/-- lightningd does not answer `listinvoices`: nothing has changed. -/
theorem swap_creation_atomic_unlisted :
    Untouched (runOf boot World.start) (final (createNormalSwap
      { Sample.env with listinvoices := fun _ => none } 50000 paymentHash [])
      (runOf boot World.start)) :=
  (swap_creation_atomic_iff { Sample.env with listinvoices := fun _ => none } 50000 paymentHash []
    (runOf boot World.start) Sample.fresh_boot).1.mpr (.inl fun h => nomatch h.issues.unlisted)
    (by decide +kernel)

/-- bitcoind does not import the lockup address: the hold invoices, the preimage and the swap stay. -/
theorem swap_creation_leaves_half :
    ∃ w, Reachable (fun _ _ => True) w ∧
      FreshHashes paymentHash (sha256 Sample.env.urandomPreimage) w ∧
      raises (createNormalSwap { Sample.env with importdescriptors := fun _ => false } 50000
        paymentHash []) w = some .BitcoinCoreRPCError ∧
      ¬ Untouched w (final (createNormalSwap
        { Sample.env with importdescriptors := fun _ => false } 50000 paymentHash []) w) := by
  refine ⟨runOf boot World.start, reachable_runOf _, Sample.fresh_boot, by decide +kernel, ?_⟩
  intro h
  have hstored : ((final (createNormalSwap { Sample.env with importdescriptors := fun _ => false }
      50000 paymentHash []) (runOf boot World.start)).holdInvoices.get? (hex paymentHash)).isSome
        = true := by decide +kernel
  rw [h.holdInvoices] at hstored
  revert hstored
  decide +kernel

end Sample

end SubswapProvider
