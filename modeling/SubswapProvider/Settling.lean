import SubswapProvider.Following
import SubswapProvider.Bookkeeping

/-!
# Settling a hold invoice

When a claim of the lockup output shows the preimage, `_claim_swap` settles the hold invoice with
it. Four things decide whether that happens:

* the call looks at the output listed first only, whoever has paid it (`SpendFollowed`),
* the loop over the inputs has to get to the claim: it stops with an exception at the first witness
  that has no second element (`extractPreimage_eq_some_iff`),
* the callbacks of the accepted HTLCs must still be open (`settleInvoice_returns_iff`),
* the swap must not know the preimage yet: the branch that settles is the one that looks for it.

The result is `claimSwap_settles_iff`, which says exactly when a call settles.
-/

namespace SubswapProvider

open Deployment Effect

/-! ## Which events a program adds -/

/-- `w'` has the log of `w` with events that satisfy `P` in front. -/
def SaysOnly (P : Event → Prop) (w w' : World) : Prop :=
  ∃ es, w'.trace = es ++ w.trace ∧ ∀ e ∈ es, P e

section

variable {P : Event → Prop} {w w' : World}

theorem SaysOnly.of_eq (h : w'.trace = w.trace) : SaysOnly P w w' :=
  ⟨[], h, fun _ he => by cases he⟩

theorem SaysOnly.refl (w : World) : SaysOnly P w w := .of_eq rfl

theorem SaysOnly.cons {e : Event} {t : List Event} (h : SaysOnly P w w') (he : P e)
    (ht : t = e :: w'.trace) {w'' : World} (hw : w''.trace = t) : SaysOnly P w w'' := by
  obtain ⟨es, hes, hP⟩ := h
  refine ⟨e :: es, by rw [hw, ht, hes]; rfl, fun e' he' => ?_⟩
  rcases List.mem_cons.mp he' with rfl | he'
  · exact he
  · exact hP e' he'

theorem SaysOnly.not_emits {α : Type} {x : PyM α} {e : Event} (h : SaysOnly P w (final x w))
    (he : ¬ P e) : ¬ Emits x w e := by
  obtain ⟨es, hes, hP⟩ := h
  rintro hemits
  exact he (hP e ((emits_of_trace hes e).mp hemits))

theorem SaysOnly.same (h : SaysOnly P w w') {w'' : World} (ht : w''.trace = w'.trace) :
    SaysOnly P w w'' := by
  obtain ⟨es, hes, hP⟩ := h
  exact ⟨es, ht.trans hes, hP⟩

end

/-- The event settles no invoice. -/
def Event.SettlesNone (e : Event) : Prop := ∀ payment_hash preimage, e ≠ .settled payment_hash preimage

theorem says_emit {P : Event → Prop} {e : Event} (he : P e) (w₀ : World) :
    Keeps (SaysOnly P w₀) (emit e) :=
  Keeps.modify fun _ h => h.cons he rfl rfl

theorem says_quiet {P : Event → Prop} {α : Type} {x : PyM α} (h : ∀ w₀, Keeps (Quiet w₀) x)
    (w₀ : World) : Keeps (SaysOnly P w₀) x :=
  Keeps.of_rel h Quiet.refl fun _ _ hst hs => hs.same hst.trace

theorem says_setResult {P : Event → Prop} {request : Request} {res : HookResult}
    (hanswer : P (.answer request res)) (hrefused : P (.refused request res)) (w₀ : World) :
    Keeps (SaysOnly P w₀) (setResult request res) :=
  Keeps.get fun _ => Keeps.ite
    (Keeps.bind (says_emit hrefused w₀) fun _ => Keeps.throw)
    (says_emit hanswer w₀)

theorem says_settleHtlc {P : Event → Prop} {preimage : Bytes}
    (hanswer : ∀ r, P (.answer r (.resolve preimage)))
    (hrefused : ∀ r, P (.refused r (.resolve preimage))) (k : Hex) (htlc : Htlc) (w₀ : World) :
    Keeps (SaysOnly P w₀) (settleHtlc k htlc preimage) := by
  unfold settleHtlc resolveHtlc
  refine Keeps.ite ?_ Keeps.throw
  split
  · exact Keeps.throw
  · exact Keeps.bind (Keeps.modify fun _ h => h) fun _ => says_setResult (hanswer _) (hrefused _) w₀

/-! ## The HTLCs of an invoice -/

/-- The callback of the HTLC can still be given a result. -/
def World.Open (w : World) (h : Htlc) : Prop :=
  ∃ request, h.requestCallback = some request ∧ ¬ w.Answered request

/-- Each accepted HTLC of the invoice can be settled. -/
def World.CanSettle (w : World) (invoice : HoldInvoice) : Prop :=
  ∀ h ∈ invoice.incomingHtlcs, h.state = .accepted → w.Open h

theorem setResult_open {request : Request} {res : HookResult} {w : World}
    (h : ¬ w.Answered request) :
    setResult request res w = .ok () (w.say (.answer request res)) := by
  unfold setResult
  rw [get_bind, if_neg h]
  rfl

theorem setResult_answered {request : Request} {res : HookResult} {w : World}
    (h : w.Answered request) : ∃ w', setResult request res w = .error .ValueError w' := by
  unfold setResult
  rw [get_bind, if_pos h]
  exact ⟨_, rfl⟩

/-- Settling or failing an HTLC whose callback is open. -/
theorem resolveHtlc_open (k : Hex) {h : Htlc} (st : HtlcState) (res : HookResult) {request : Request}
    {w : World} (hacc : h.state = .accepted) (hrequest : h.requestCallback = some request)
    (hopen : ¬ w.Answered request) :
    resolveHtlc k h st res w = .ok ()
      ((w.mutHoldInvoice k (·.setHtlcState h.key st) fun _ => rfl).say (.answer request res)) := by
  unfold resolveHtlc
  rw [if_pos hacc, hrequest]
  dsimp only
  rw [modify_bind]
  exact setResult_open hopen

/-- One whose callback is not. -/
theorem resolveHtlc_raises (k : Hex) {h : Htlc} (st : HtlcState) (res : HookResult) {w : World}
    (hacc : h.state = .accepted) (hopen : ¬ w.Open h) :
    ∃ e w', resolveHtlc k h st res w = .error e w' := by
  unfold resolveHtlc
  rw [if_pos hacc]
  cases hrequest : h.requestCallback with
  | none => exact ⟨_, _, rfl⟩
  | some request =>
    have hanswered : w.Answered request := by
      by_contra hnot
      exact hopen ⟨request, hrequest, hnot⟩
    dsimp only
    rw [modify_bind]
    have hanswered' : (w.mutHoldInvoice k (·.setHtlcState h.key st)
        fun _ => rfl).Answered request := hanswered
    obtain ⟨w', hw'⟩ := setResult_answered hanswered'
    exact ⟨_, w', hw'⟩

theorem World.Answered.mono_cons {w w' : World} {request : Request} {e : Event}
    (h : w.Answered request) (ht : w'.trace = e :: w.trace) : w'.Answered request := by
  obtain ⟨res, hres⟩ := h
  exact ⟨res, by rw [ht]; exact List.mem_cons_of_mem e hres⟩

/-- An answer closes the callback it goes to, and no other. -/
theorem World.open_iff_of_answer {w w' : World} {request : Request} {res : HookResult} {a : Htlc}
    (ht : w'.trace = .answer request res :: w.trace)
    (hother : ∀ r, a.requestCallback = some r → r ≠ request) : w'.Open a ↔ w.Open a := by
  constructor
  · rintro ⟨r, hr, hopen⟩
    exact ⟨r, hr, fun hans => hopen (hans.mono_cons ht)⟩
  · rintro ⟨r, hr, hopen⟩
    refine ⟨r, hr, ?_⟩
    rintro ⟨res', hres⟩
    rw [ht] at hres
    rcases List.mem_cons.mp hres with heq | hres
    · cases heq
      exact hother _ hr rfl
    · exact hopen ⟨res', hres⟩

/-- The loop over the HTLCs gets through exactly when each accepted one has an
open callback. -/
theorem resolveAll_returns_iff (k : Hex) (st : HtlcState) (res : HookResult) {l : List Htlc}
    (hnodup : (l.map Htlc.key).Nodup)
    (hrequests : ∀ h ∈ l, ∀ r, h.requestCallback = some r → r.htlc.key = h.key) (w : World) :
    returns (l.forM fun h => if h.state = .accepted then resolveHtlc k h st res else pure ()) w
        = true ↔
      ∀ h ∈ l, h.state = .accepted → w.Open h := by
  induction l generalizing w with
  | nil => exact iff_of_true rfl fun _ h => absurd h List.not_mem_nil
  | cons h l ih =>
    rw [List.map_cons, List.nodup_cons] at hnodup
    have ih := ih hnodup.2 fun a ha => hrequests a (List.mem_cons_of_mem h ha)
    show returns ((if h.state = .accepted then resolveHtlc k h st res else pure ()) >>= fun _ =>
      l.forM fun h => if h.state = .accepted then resolveHtlc k h st res else pure ()) w = true ↔ _
    by_cases hacc : h.state = .accepted
    · rw [if_pos hacc]
      by_cases hopen : w.Open h
      · obtain ⟨request, hrequest, hnot⟩ := hopen
        have hrun := resolveHtlc_open k st res hacc hrequest hnot
        generalize hw' : (w.mutHoldInvoice k (·.setHtlcState h.key st) fun _ => rfl).say
          (.answer request res) = w' at hrun
        have htrace : w'.trace = .answer request res :: w.trace := by rw [← hw']; rfl
        -- the other HTLCs have callbacks of their own
        have hsame : ∀ a ∈ l, (w'.Open a ↔ w.Open a) := by
          intro a ha
          apply World.open_iff_of_answer htrace
          rintro r hr rfl
          have hkey := hrequests a (List.mem_cons_of_mem h ha) r hr
          rw [hrequests h List.mem_cons_self r hrequest] at hkey
          exact hnodup.1 (List.mem_map.mpr ⟨a, ha, hkey.symm⟩)
        have hreturns : returns (resolveHtlc k h st res >>= fun _ => l.forM fun h =>
            if h.state = .accepted then resolveHtlc k h st res else pure ()) w
            = returns (l.forM fun h =>
              if h.state = .accepted then resolveHtlc k h st res else pure ()) w' := by
          unfold returns
          rw [bind_ok hrun]
        rw [hreturns, ih w']
        constructor
        · intro hall a ha hacc'
          rcases List.mem_cons.mp ha with rfl | ha
          · exact ⟨request, hrequest, hnot⟩
          · exact (hsame a ha).mp (hall a ha hacc')
        · exact fun hall a ha hacc' =>
            (hsame a ha).mpr (hall a (List.mem_cons_of_mem h ha) hacc')
      · obtain ⟨e, w', hrun⟩ := resolveHtlc_raises k st res hacc hopen
        have hreturns : returns (resolveHtlc k h st res >>= fun _ => l.forM fun h =>
            if h.state = .accepted then resolveHtlc k h st res else pure ()) w = false := by
          unfold returns
          rw [bind_error hrun]
        rw [hreturns]
        exact iff_of_false (by simp) fun hall => hopen (hall h List.mem_cons_self hacc)
    · rw [if_neg hacc]
      refine Iff.trans (ih w) ⟨fun hall a ha hacc' => ?_, fun hall a ha =>
        hall a (List.mem_cons_of_mem h ha)⟩
      rcases List.mem_cons.mp ha with rfl | ha
      · exact absurd hacc' hacc
      · exact hall a ha hacc'

section

variable [Deployment]

/-- What settling an invoice says: with the event that it is settled when it gets through, without
one when it does not. -/
theorem settleInvoice_says (invoice : HoldInvoice) (preimage : Bytes) (w : World) :
    Triple (· = w) (settleInvoice invoice (some preimage))
      (fun _ s => ∃ w', SaysOnly Event.SettlesNone w w' ∧
        s.trace = .settled invoice.paymentHash preimage :: w'.trace)
      (fun _ s => SaysOnly Event.SettlesNone w s) := by
  have hrefl : ∀ s, s = w → SaysOnly Event.SettlesNone w s := by
    intro s hs
    rw [hs]
    exact SaysOnly.refl w
  refine Triple.pre ?_ hrefl
  refine triple_pyAssert (fun _ h => h) fun _ => triple_raiseUnless (fun _ h => h) fun _ => ?_
  refine Triple.bind (Keeps.forM fun htlc _ =>
      Keeps.ite (says_settleHtlc (fun _ _ _ => by simp) (fun _ _ _ => by simp) _ _ w) Keeps.pure)
    fun _ => ?_
  refine Triple.modifyBind (R := SaysOnly Event.SettlesNone w) (fun s hs => hs.same rfl) ?_
  exact Triple.modify fun s hs => ⟨s, hs, rfl⟩

/-- **An invoice is settled exactly when each accepted HTLC of it can be.** -/
theorem settleInvoice_returns_iff {invoice : HoldInvoice} {preimage : Bytes}
    (hhash : invoice.paymentHash = sha256 preimage) (hfull : invoice.isFullyFunded = true)
    (hrequests : ∀ h ∈ invoice.incomingHtlcs, ∀ r, h.requestCallback = some r →
      r.htlc.key = h.key) (w : World) :
    returns (settleInvoice invoice (some preimage)) w = true ↔ w.CanSettle invoice := by
  have hall := resolveAll_returns_iff (hex invoice.paymentHash) .settled (.resolve preimage)
    invoice.incomingHtlcs.nodup hrequests w
  unfold World.CanSettle
  refine Iff.trans ?_ hall
  unfold settleInvoice
  dsimp only
  rw [decide_eq_true hhash, pyAssert_true, pure_bind, if_pos hfull, pure_bind]
  unfold forAccepted settleHtlc returns
  cases hr : (invoice.incomingHtlcs.elems.forM fun h =>
      if h.state = .accepted then resolveHtlc (hex invoice.paymentHash) h .settled (.resolve preimage)
      else pure ()) w with
  | ok a s =>
    rw [bind_ok hr]
    exact iff_of_true rfl rfl
  | error e s =>
    rw [bind_error hr]

/-! ## Finishing a normal swap -/

omit [Deployment] in
theorem trace_deleteHoldInvoice (env : Env) (k : Hex) (write_db : Bool) (t : List Event) :
    Keeps (fun s => s.trace = t) (deleteHoldInvoice env k write_db) := by
  refine Keeps.bind (Keeps.modify fun _ h => h) fun _ => Keeps.get fun _ =>
    Keeps.ite (Keeps.bind (Keeps.modify fun s h => ?_) fun _ => Keeps.ite ?_ Keeps.pure) Keeps.pure
  · unfold World.popHoldInvoice
    split
    · exact h
    · exact h
  · exact Keeps.of_rel (quiet_dbWrite env) Quiet.refl fun _ _ hst hs => hst.trace.trans hs

omit [Deployment] in
/-- What `_finish_normal_swap` does after the invoice has been settled. -/
def afterSettling (env : Env) (swap : SwapData) : PyM Unit := do
  deleteHoldInvoice env (hex swap.paymentHash) false
  (match swap.prepayHash with
    | some prepay_hash => deleteHoldInvoice env (hex prepay_hash) false
    | none => pure ())
  deletePaymentInfo env (some swap.paymentHash) false
  removeCallback swap.lockupAddress
  popSwapOrRaise (hex swap.paymentHash)
  dbWrite env

omit [Deployment] in
/-- It says nothing. -/
theorem trace_afterSettling (env : Env) (swap : SwapData) (t : List Event) :
    Keeps (fun s => s.trace = t) (afterSettling env swap) := by
  unfold afterSettling
  have hquiet : ∀ {α : Type} {x : PyM α}, (∀ w₀, Keeps (Quiet w₀) x) →
      Keeps (fun s => s.trace = t) x :=
    fun h => Keeps.of_rel h Quiet.refl fun _ _ hst hs => hst.trace.trans hs
  refine Keeps.bind (trace_deleteHoldInvoice env _ _ t) fun _ => Keeps.bind ?_ fun _ =>
    Keeps.bind (hquiet fun w₀ => quiet_deletePaymentInfo env w₀ _ _) fun _ =>
    Keeps.bind (hquiet fun w₀ => quiet_removeCallback w₀ _) fun _ =>
    Keeps.bind (hquiet fun w₀ => quiet_popSwapOrRaise w₀ _) fun _ => hquiet (quiet_dbWrite env)
  split
  · exact trace_deleteHoldInvoice env _ _ t
  · exact Keeps.pure

/-- `_finish_normal_swap` of a swap with a preimage and an invoice settles first. -/
theorem finishNormalSwap_run (env : Env) {ref : SwapRef} {w : World} {preimage : Bytes}
    {invoice : HoldInvoice} (hhas : (w.heap ref).hasPreimage = true)
    (hpreimage : (w.heap ref).preimage = some preimage)
    (hinvoice : w.getHoldInvoice (w.heap ref).paymentHash = some invoice) :
    finishNormalSwap env ref w = (settleInvoice invoice (some preimage) >>= fun _ =>
      afterSettling env (w.heap ref)) w := by
  unfold finishNormalSwap
  rw [get_bind, hhas, pyAssert_true, pure_bind, hinvoice, hpreimage]
  rfl

/-- **`_finish_normal_swap` settles with the preimage the swap has**, exactly when each accepted HTLC
can be settled, and never with another. -/
theorem finishNormalSwap_emits_iff (env : Env) {ref : SwapRef} {w : World} {preimage : Bytes}
    {invoice : HoldInvoice} (hpreimage : (w.heap ref).preimage = some preimage)
    (hinvoice : w.getHoldInvoice (w.heap ref).paymentHash = some invoice)
    (hhash : sha256 preimage = (w.heap ref).paymentHash) (hfull : invoice.isFullyFunded = true)
    (hrequests : ∀ h ∈ invoice.incomingHtlcs, ∀ r, h.requestCallback = some r →
      r.htlc.key = h.key) (x : Bytes) :
    Emits (finishNormalSwap env ref) w (.settled (w.heap ref).paymentHash x) ↔
      x = preimage ∧ preimage ≠ [] ∧ w.CanSettle invoice := by
  by_cases hempty : preimage = []
  · refine iff_of_false (not_emits ?_ _) fun h => h.2.1 hempty
    have hhas : (w.heap ref).hasPreimage = false := by
      unfold SwapData.hasPreimage
      rw [hpreimage, hempty]
    unfold final finishNormalSwap
    rw [get_bind, hhas]
    rfl
  have hkey : invoice.paymentHash = (w.heap ref).paymentHash :=
    hex_inj.mp (HoldInvoices.hex_paymentHash hinvoice)
  have hhas : (w.heap ref).hasPreimage = true := by
    unfold SwapData.hasPreimage
    rw [hpreimage]
    cases preimage with
    | nil => exact absurd rfl hempty
    | cons b bs => rfl
  have hsays := settleInvoice_says invoice preimage w w rfl
  have hreturns := settleInvoice_returns_iff (hkey.trans hhash.symm) hfull hrequests w
  have hrun := finishNormalSwap_run env hhas hpreimage hinvoice
  unfold returns at hreturns
  cases hsettle : settleInvoice invoice (some preimage) w with
  | ok a s =>
    rw [hsettle] at hsays hreturns
    obtain ⟨w', ⟨es, hes, hnone⟩, hs⟩ := hsays
    have htrace := (trace_afterSettling env (w.heap ref) s.trace).final (s := s) rfl
    have hfinal : (final (finishNormalSwap env ref) w).trace
        = (.settled invoice.paymentHash preimage :: es) ++ w.trace := by
      unfold final at htrace ⊢
      rw [hrun, bind_ok hsettle]
      exact htrace.trans (hs.trans (by rw [hes]; rfl))
    rw [emits_of_trace hfinal]
    constructor
    · intro hmem
      rcases List.mem_cons.mp hmem with heq | hmem
      · exact ⟨(Event.settled.inj heq).2, hempty, hreturns.mp rfl⟩
      · exact absurd rfl (hnone _ hmem _ _)
    · rintro ⟨rfl, -⟩
      rw [hkey]
      exact List.mem_cons_self
  | error e s =>
    rw [hsettle] at hsays hreturns
    have hfinal : final (finishNormalSwap env ref) w = s := by
      unfold final
      rw [hrun, bind_error hsettle]
    refine iff_of_false ?_ fun h => by simpa using hreturns.mpr h.2.2
    refine SaysOnly.not_emits (P := Event.SettlesNone) (by rw [hfinal]; exact hsays) fun h => ?_
    exact h _ _ rfl

/-! ## Reading the claim -/

/-- The second witness element of the input is `x`. -/
def showsPreimage (x : Bytes) (witness : Option Bytes) : Bool :=
  match preimageOfWitness witness with
  | .ok y => y = x
  | .error _ => false

/-- The inputs before the first one that shows `x`. -/
def inputsBefore (x : Bytes) (witnesses : List (Option Bytes)) : List (Option Bytes) :=
  witnesses.takeWhile fun witness => !showsPreimage x witness

/-- Each of the inputs can be read, and shows no preimage of the payment hash. -/
def PassesOver (payment_hash : Bytes) (witnesses : List (Option Bytes)) : Prop :=
  ∀ witness ∈ witnesses, ∃ y, preimageOfWitness witness = .ok y ∧ sha256 y ≠ payment_hash

theorem extractPreimage_sound {payment_hash y : Bytes} {witnesses : List (Option Bytes)}
    (h : extractPreimage payment_hash witnesses = .ok (some y)) : sha256 y = payment_hash := by
  induction witnesses with
  | nil => cases h
  | cons witness witnesses ih =>
    unfold extractPreimage at h
    split at h
    · cases h
    · split at h
      · next heq =>
        cases h
        exact heq
      · exact ih h

/-- **The loop finds `x` exactly when it can read every input before it.** -/
theorem extractPreimage_eq_some_iff {payment_hash x : Bytes} (hx : sha256 x = payment_hash)
    {witnesses : List (Option Bytes)} (hshown : ∃ v ∈ witnesses, showsPreimage x v = true) :
    extractPreimage payment_hash witnesses = .ok (some x) ↔
      PassesOver payment_hash (inputsBefore x witnesses) := by
  induction witnesses with
  | nil =>
    obtain ⟨v, hv, -⟩ := hshown
    cases hv
  | cons witness witnesses ih =>
    unfold extractPreimage inputsBefore PassesOver
    rw [List.takeWhile_cons]
    cases hread : preimageOfWitness witness with
    | error e =>
      have hnot : showsPreimage x witness = false := by
        unfold showsPreimage
        rw [hread]
      refine iff_of_false (fun h => by cases h) fun h => ?_
      obtain ⟨y, hy, -⟩ := h witness (by rw [hnot]; exact List.mem_cons_self)
      rw [hread] at hy
      cases hy
    | ok y =>
      by_cases hyx : y = x
      · have hshow : showsPreimage x witness = true := by
          unfold showsPreimage
          rw [hread]
          exact decide_eq_true hyx
        subst hyx
        dsimp only
        rw [if_pos hx, hshow]
        exact iff_of_true rfl fun v hv => by cases hv
      · have hnot : showsPreimage x witness = false := by
          unfold showsPreimage
          rw [hread]
          exact decide_eq_false hyx
        rw [hnot]
        dsimp only
        by_cases hy : sha256 y = payment_hash
        · rw [if_pos hy]
          refine iff_of_false (fun h => hyx (Option.some.inj (Except.ok.inj h))) fun h => ?_
          obtain ⟨y', hy', hne⟩ := h witness List.mem_cons_self
          rw [hread] at hy'
          cases hy'
          exact hne hy
        · rw [if_neg hy]
          have hshown' : ∃ v ∈ witnesses, showsPreimage x v = true := by
            obtain ⟨v, hv, hv'⟩ := hshown
            rcases List.mem_cons.mp hv with rfl | hv
            · rw [hnot] at hv'
              cases hv'
            · exact ⟨v, hv, hv'⟩
          refine (ih hshown').trans ⟨fun h v hv => ?_, fun h v hv =>
            h v (List.mem_cons_of_mem witness hv)⟩
          rcases List.mem_cons.mp hv with rfl | hv
          · exact ⟨y, hread, hy⟩
          · exact h v hv

/-! ## One call of the chain callback -/

/-- bitcoind shows a claim of the lockup output `own` with the preimage `x`: the output is listed at the
lockup address, at any place, and the transaction that spends it can be had. -/
structure ClaimVisible (env : Env) (swap : SwapData) (current_height : Nat) (own : PartialTxInput)
    (claim_tx : Transaction) (x : Bytes) : Prop where
  upToDate : env.isUpToDate = some true
  height : env.localHeight = some current_height
  listed : ∃ txos, env.addrOutputs swap.lockupAddress = some txos ∧ own ∈ txos
  spent : own.spentHeight.isSome = true
  fetched : ∃ spent_txid, own.spentTxid = some spent_txid ∧
    env.transaction spent_txid = some (some claim_tx)
  length : x.length = 32
  hash : sha256 x = swap.paymentHash
  claimed : ∃ witness ∈ claim_tx.witnesses, ∃ sig,
    witnessElements witness = some [sig, x, swap.redeemScript]

/-- The claim is at most 30 blocks deep, or not confirmed yet. -/
structure ClaimSeen (env : Env) (swap : SwapData) (current_height : Nat) (own : PartialTxInput)
    (claim_tx : Transaction) (x : Bytes) : Prop
    extends ClaimVisible env swap current_height own claim_tx x where
  notDeep : deeplySpent current_height own = false

/-- What a call looks at is the output listed first: it is spent, at most 30 blocks deep, and bitcoind
has its confirmations and the transaction that spends it. -/
structure SpendFollowed (env : Env) (swap : SwapData) (current_height : Nat) (first : PartialTxInput)
    (spending_tx : Transaction) : Prop where
  listed : ∃ txos, env.addrOutputs swap.lockupAddress = some (first :: txos)
  confirmations : (env.confirmations first.prevout.txid).isSome = true
  spent : first.spentHeight.isSome = true
  notDeep : deeplySpent current_height first = false
  fetched : ∃ spent_txid, first.spentTxid = some spent_txid ∧
    env.transaction spent_txid = some (some spending_tx)

omit [Deployment] in
/-- One call looks at one transaction. -/
theorem SpendFollowed.unique {env : Env} {swap : SwapData} {current_height : Nat}
    {first first' : PartialTxInput} {spending_tx spending_tx' : Transaction}
    (h : SpendFollowed env swap current_height first spending_tx)
    (h' : SpendFollowed env swap current_height first' spending_tx') :
    first' = first ∧ spending_tx' = spending_tx := by
  obtain ⟨txos, htxos⟩ := h.listed
  obtain ⟨txos', htxos'⟩ := h'.listed
  rw [htxos] at htxos'
  cases htxos'
  obtain ⟨spent_txid, hspent, htx⟩ := h.fetched
  obtain ⟨spent_txid', hspent', htx'⟩ := h'.fetched
  rw [hspent] at hspent'
  cases hspent'
  rw [htx] at htx'
  cases htx'
  exact ⟨rfl, rfl⟩

/-- The transaction that spends the output listed first shows `x`, and each input in front of the one
that does can be passed over. -/
def FindsPreimage (env : Env) (swap : SwapData) (current_height : Nat) (x : Bytes) : Prop :=
  ∃ first spending_tx, SpendFollowed env swap current_height first spending_tx ∧
    (∃ witness ∈ spending_tx.witnesses, showsPreimage x witness = true) ∧
    PassesOver swap.paymentHash (inputsBefore x spending_tx.witnesses)

/-- What follows the look at the spending transaction settles nothing. -/
theorem says_takeRefund (env : Env) (ref : SwapRef) (txin : PartialTxInput)
    (remaining_time conf : Int) (outcome : SpendOutcome) (w₀ : World) :
    Keeps (SaysOnly Event.SettlesNone w₀)
      (takeRefund env ref txin remaining_time conf outcome) :=
  keeps_takeRefund env txin (fun _ => Keeps.modify fun s h => h.same (World.assign_trace ref _ s))
    (fun _ => says_emit (fun _ _ => by simp) w₀) _ _ _

/-- A spend without the preimage settles nothing. -/
theorem says_handleExtracted_none (env : Env) (ref : SwapRef) (spent_height : Nat)
    (claim_tx : Transaction) (w₀ : World) :
    Keeps (SaysOnly Event.SettlesNone w₀)
      (handleExtracted env ref spent_height claim_tx none) := by
  refine Keeps.ite (Keeps.bind (Keeps.modify fun s h => h.same (World.assign_trace ref _ s))
    fun _ => Keeps.bind (says_quiet (fun w₁ => quiet_failSwap env w₁ ref) w₀) fun _ => Keeps.pure) ?_
  exact Keeps.ite (Keeps.bind (keeps_orRaise _ _) fun _ => Keeps.pure) Keeps.pure

/-- A swap that knows its preimage is not settled: the branch that settles is skipped. -/
theorem claimNormal_known (env : Env) {ref : SwapRef} (txin : PartialTxInput) {w : World}
    (hknown : (w.heap ref).preimage.isSome = true) (remaining_time conf : Int) :
    SaysOnly Event.SettlesNone w (final (claimNormal env ref txin remaining_time conf) w) := by
  obtain ⟨p, hp⟩ := Option.isSome_iff_exists.mp hknown
  have hrun : claimNormal env ref txin remaining_time conf w
      = takeRefund env ref txin remaining_time conf (.goOn false) w := by
    unfold claimNormal
    rw [get_bind, hp]
    rfl
  rw [final_congr hrun]
  exact (says_takeRefund env ref txin remaining_time conf _ w).final (SaysOnly.refl w)

/-- A call that does not know the preimage looks for it in the transaction that spends the output. -/
theorem claimNormal_unknown (env : Env) {ref : SwapRef} {txin : PartialTxInput} {w : World}
    {claim_tx : Transaction} {spent_height : Nat} (hunknown : (w.heap ref).preimage = none)
    (hspent : txin.spentHeight = some spent_height)
    (hfetched : ∃ spent_txid, txin.spentTxid = some spent_txid ∧
      env.transaction spent_txid = some (some claim_tx)) (remaining_time conf : Int) :
    claimNormal env ref txin remaining_time conf w
      = (liftExcept (extractPreimage (w.heap ref).paymentHash claim_tx.witnesses) >>=
          handleExtracted env ref spent_height claim_tx >>=
          takeRefund env ref txin remaining_time conf) w := by
  obtain ⟨spent_txid, htxid, htx⟩ := hfetched
  have hinspect : inspectSpend env ref txin spent_height w
      = (liftExcept (extractPreimage (w.heap ref).paymentHash claim_tx.witnesses) >>=
          handleExtracted env ref spent_height claim_tx) w := by
    unfold inspectSpend
    rw [get_bind, htxid, orRaise_some, pure_bind, htx, orRaise_some, pure_bind, orRaise_some,
      pure_bind]
  unfold claimNormal
  rw [get_bind, hunknown, hspent]
  exact Effect.bind_congr hinspect

/-- A call that finds nothing settles nothing. -/
theorem claimNormal_silent (env : Env) {ref : SwapRef} {txin : PartialTxInput} {w : World}
    {claim_tx : Transaction} {spent_height : Nat} (hunknown : (w.heap ref).preimage = none)
    (hspent : txin.spentHeight = some spent_height)
    (hfetched : ∃ spent_txid, txin.spentTxid = some spent_txid ∧
      env.transaction spent_txid = some (some claim_tx)) (remaining_time conf : Int)
    (hextract : extractPreimage (w.heap ref).paymentHash claim_tx.witnesses = .ok none) :
    SaysOnly Event.SettlesNone w (final (claimNormal env ref txin remaining_time conf) w) := by
  have hrun := claimNormal_unknown env hunknown hspent hfetched remaining_time conf
  rw [hextract] at hrun
  rw [final_congr hrun]
  have hkeeps : Keeps (SaysOnly Event.SettlesNone w) (pure none >>=
      handleExtracted env ref spent_height claim_tx >>=
      takeRefund env ref txin remaining_time conf) := by
    rw [pure_bind]
    exact Keeps.bind (says_handleExtracted_none env ref spent_height claim_tx w)
      fun outcome => says_takeRefund env ref txin remaining_time conf outcome w
  exact hkeeps.final (SaysOnly.refl w)

/-- A call that finds a preimage ends as the swap's being finished with it ends. -/
theorem final_claimNormal_found (env : Env) {ref : SwapRef} {txin : PartialTxInput} {w : World}
    {claim_tx : Transaction} {spent_height : Nat} (hunknown : (w.heap ref).preimage = none)
    (hspent : txin.spentHeight = some spent_height)
    (hfetched : ∃ spent_txid, txin.spentTxid = some spent_txid ∧
      env.transaction spent_txid = some (some claim_tx)) (remaining_time conf : Int) {y : Bytes}
    (hextract : extractPreimage (w.heap ref).paymentHash claim_tx.witnesses = .ok (some y)) :
    final (claimNormal env ref txin remaining_time conf) w
      = final (finishNormalSwap env ref)
        (w.assign ref fun swap => { swap with preimage := some y }) := by
  have hrun := claimNormal_unknown env hunknown hspent hfetched remaining_time conf
  rw [hextract] at hrun
  rw [final_congr hrun]
  have hhandle : (liftExcept (.ok (some y)) >>= handleExtracted env ref spent_height claim_tx) w
      = (finishNormalSwap env ref >>= fun _ => pure .finished)
        (w.assign ref fun swap => { swap with preimage := some y }) := rfl
  cases hfinish : finishNormalSwap env ref
      (w.assign ref fun swap => { swap with preimage := some y }) with
  | ok a s =>
    rw [final_bind_ok (hhandle.trans (bind_ok hfinish))]
    unfold final
    rw [hfinish]
    rfl
  | error e s =>
    rw [final_bind_error (hhandle.trans (bind_error hfinish))]
    unfold final
    rw [hfinish]

/-- **One call settles with `x`** exactly when its loop finds `x` and each accepted HTLC can be
settled. -/
theorem claimNormal_emits_iff (env : Env) {ref : SwapRef} {txin : PartialTxInput} {w : World}
    {claim_tx : Transaction} {invoice : HoldInvoice} {spent_height : Nat}
    (hunknown : (w.heap ref).preimage = none) (hspent : txin.spentHeight = some spent_height)
    (hfetched : ∃ spent_txid, txin.spentTxid = some spent_txid ∧
      env.transaction spent_txid = some (some claim_tx))
    (hinvoice : w.getHoldInvoice (w.heap ref).paymentHash = some invoice)
    (hfull : invoice.isFullyFunded = true)
    (hrequests : ∀ h ∈ invoice.incomingHtlcs, ∀ r, h.requestCallback = some r →
      r.htlc.key = h.key) (remaining_time conf : Int) {x : Bytes} (hnonempty : x ≠ []) :
    Emits (claimNormal env ref txin remaining_time conf) w
        (.settled (w.heap ref).paymentHash x) ↔
      extractPreimage (w.heap ref).paymentHash claim_tx.witnesses = .ok (some x) ∧
        w.CanSettle invoice := by
  have hrun := claimNormal_unknown env hunknown hspent hfetched remaining_time conf
  have hsilent : SaysOnly Event.SettlesNone w (final (claimNormal env ref txin remaining_time conf) w)
      → ¬ Emits (claimNormal env ref txin remaining_time conf) w
        (.settled (w.heap ref).paymentHash x) :=
    fun h => h.not_emits fun h => h _ _ rfl
  cases hextract : extractPreimage (w.heap ref).paymentHash claim_tx.witnesses with
  | error e =>
    refine iff_of_false (hsilent ?_) fun h => by cases h.1
    rw [hextract] at hrun
    have herror : (liftExcept (.error e) >>= handleExtracted env ref spent_height claim_tx) w
        = .error e w := rfl
    rw [final_congr hrun, final_bind_error herror]
    exact SaysOnly.refl w
  | ok extracted =>
    rw [hextract] at hrun
    cases extracted with
    | none =>
      refine iff_of_false (hsilent ?_) fun h => by cases h.1
      exact claimNormal_silent env hunknown hspent hfetched remaining_time conf hextract
    | some y =>
      have hsha := extractPreimage_sound hextract
      have hfinal := final_claimNormal_found env hunknown hspent hfetched remaining_time conf hextract
      generalize hw₂ : w.assign ref (fun swap => { swap with preimage := some y }) = w₂ at hfinal
      have hheap : w₂.heap ref = { w.heap ref with preimage := some y } := by
        rw [← hw₂, World.assign_heap_self]
      have hholds : w₂.holdInvoices = w.holdInvoices := by rw [← hw₂, World.assign_holdInvoices]
      have htrace : w₂.trace = w.trace := by rw [← hw₂, World.assign_trace]
      have hinvoice₂ : w₂.getHoldInvoice (w₂.heap ref).paymentHash = some invoice := by
        unfold World.getHoldInvoice
        rw [hholds, hheap]
        exact hinvoice
      have hfinish := finishNormalSwap_emits_iff env (by rw [hheap]) hinvoice₂
        (by rw [hheap]; exact hsha) hfull hrequests x
      rw [hheap] at hfinish
      have hcan : w₂.CanSettle invoice ↔ w.CanSettle invoice := by
        unfold World.CanSettle World.Open World.Answered
        rw [htrace]
      have hemits : Emits (claimNormal env ref txin remaining_time conf) w
          (.settled (w.heap ref).paymentHash x) ↔
          Emits (finishNormalSwap env ref) w₂ (.settled (w.heap ref).paymentHash x) := by
        unfold Emits
        rw [hfinal, htrace]
      rw [hemits, hfinish, hcan]
      constructor
      · rintro ⟨rfl, -, hcan⟩
        exact ⟨rfl, hcan⟩
      · rintro ⟨hxy, hcan⟩
        have hxy : x = y := (Option.some.inj (Except.ok.inj hxy)).symm
        exact ⟨hxy, hxy ▸ hnonempty, hcan⟩

/-- What the loop finds is shown by one of the inputs. -/
theorem extractPreimage_shown {payment_hash x : Bytes} {witnesses : List (Option Bytes)}
    (h : extractPreimage payment_hash witnesses = .ok (some x)) :
    ∃ v ∈ witnesses, showsPreimage x v = true := by
  induction witnesses with
  | nil => cases h
  | cons witness witnesses ih =>
    unfold extractPreimage at h
    cases hread : preimageOfWitness witness with
    | error e =>
      rw [hread] at h
      cases h
    | ok y =>
      rw [hread] at h
      dsimp only at h
      split at h
      · cases h
        refine ⟨witness, List.mem_cons_self, ?_⟩
        unfold showsPreimage
        rw [hread]
        exact decide_eq_true rfl
      · obtain ⟨v, hv, hshown⟩ := ih h
        exact ⟨v, List.mem_cons_of_mem witness hv, hshown⟩

/-- A normal swap that does not know its preimage, and whose output is not spent or is spent by a
transaction that bitcoind does not give out, is not settled. -/
theorem claimNormal_unseen (env : Env) {ref : SwapRef} {txin : PartialTxInput} {w : World}
    (hunknown : (w.heap ref).preimage = none) (remaining_time conf : Int)
    (hunseen : ¬ ∃ spending_tx : Transaction, txin.spentHeight.isSome = true ∧ ∃ spent_txid,
      txin.spentTxid = some spent_txid ∧ env.transaction spent_txid = some (some spending_tx)) :
    SaysOnly Event.SettlesNone w (final (claimNormal env ref txin remaining_time conf) w) := by
  cases hspent : txin.spentHeight with
  | none =>
    have hrun : claimNormal env ref txin remaining_time conf w
        = takeRefund env ref txin remaining_time conf (.goOn false) w := by
      unfold claimNormal
      rw [get_bind, hunknown, hspent]
      rfl
    rw [final_congr hrun]
    exact (says_takeRefund env ref txin remaining_time conf _ w).final (SaysOnly.refl w)
  | some spent_height =>
    -- the transaction cannot be had, so the look at it raises
    obtain ⟨e, hraises⟩ : ∃ e, inspectSpend env ref txin spent_height w = .error e w := by
      unfold inspectSpend
      rw [get_bind]
      cases htxid : txin.spentTxid with
      | none => exact ⟨_, rfl⟩
      | some spent_txid =>
        rw [orRaise_some, pure_bind]
        cases htx : env.transaction spent_txid with
        | none => exact ⟨_, rfl⟩
        | some fetched =>
          rw [orRaise_some, pure_bind]
          cases fetched with
          | none => exact ⟨_, rfl⟩
          | some spending_tx =>
            exact absurd ⟨spending_tx, by rw [hspent]; rfl, spent_txid, htxid, htx⟩ hunseen
    have hrun : claimNormal env ref txin remaining_time conf w = .error e w := by
      unfold claimNormal
      rw [get_bind, hunknown, hspent]
      exact bind_error hraises
    have hsame : final (claimNormal env ref txin remaining_time conf) w = w := by
      unfold final
      rw [hrun]
    rw [hsame]
    exact SaysOnly.refl w

/-- A call that finds an output but is not let through to the transaction that spends it settles
nothing. -/
theorem claimFunded_silent (env : Env) {ref : SwapRef} {w : World} {current_height : Nat}
    {first : PartialTxInput} (hnormal : (w.heap ref).isReverse = false)
    (hsilent : (w.heap ref).preimage = none →
      (env.confirmations first.prevout.txid).isSome = true →
      deeplySpent current_height first = false →
      ¬ ∃ spending_tx : Transaction, first.spentHeight.isSome = true ∧ ∃ spent_txid,
        first.spentTxid = some spent_txid ∧ env.transaction spent_txid = some (some spending_tx)) :
    SaysOnly Event.SettlesNone w (final (claimFunded env ref current_height first) w) := by
  obtain ⟨w', hw', ⟨-, hrun⟩ | ⟨conf, hconf, hrun⟩⟩ := claimFunded_run env ref current_height first w
  · refine SaysOnly.of_eq ?_
    unfold final
    rw [hrun]
    exact hw'.trace
  · have hnormal' := hw'.heap.1.trans hnormal
    have hafter : SaysOnly Event.SettlesNone w'
        (final (claimLocated env ref current_height first conf) w') := by
      by_cases hdeep : deeplySpent current_height first = true
      · refine Keeps.final (I := SaysOnly Event.SettlesNone w') ?_ (SaysOnly.refl w')
        refine Keeps.get fun s => ?_
        rw [if_pos hdeep]
        exact Keeps.bind (Keeps.modify fun s h => h.same (World.assign_trace ref _ s)) fun _ =>
          says_quiet (fun w₀ => quiet_deleteFinishedReverseSwap env w₀ ref) w'
      · have hdeep : deeplySpent current_height first = false := by simpa using hdeep
        rw [final_congr (claimLocated_normal hdeep hnormal')]
        cases hpreimage : (w'.heap ref).preimage with
        | some preimage => exact claimNormal_known env first (by rw [hpreimage]; rfl) _ _
        | none =>
          refine claimNormal_unseen env hpreimage _ _ (hsilent ?_ (by rw [hconf]; rfl) hdeep)
          exact hw'.heap.2.2.1.symm.trans hpreimage
    rw [final_congr hrun]
    obtain ⟨es, hes, hnone⟩ := hafter
    exact ⟨es, by rw [hes, hw'.trace], hnone⟩

/-- A call that looks at the transaction that spends the output settles exactly when the swap does not
know its preimage and the transaction shows it in time. -/
theorem claimFunded_emits_iff (env : Env) {ref : SwapRef} {w : World} {current_height : Nat}
    {first : PartialTxInput} {spending_tx : Transaction} {invoice : HoldInvoice} {x : Bytes}
    (hfollowed : SpendFollowed env (w.heap ref) current_height first spending_tx)
    (hnormal : (w.heap ref).isReverse = false)
    (hinvoice : w.getHoldInvoice (w.heap ref).paymentHash = some invoice)
    (hfull : invoice.isFullyFunded = true)
    (hrequests : ∀ h ∈ invoice.incomingHtlcs, ∀ r, h.requestCallback = some r →
      r.htlc.key = h.key) (hnonempty : x ≠ []) :
    Emits (claimFunded env ref current_height first) w (.settled (w.heap ref).paymentHash x) ↔
      (w.heap ref).preimage = none ∧
      extractPreimage (w.heap ref).paymentHash spending_tx.witnesses = .ok (some x) ∧
      w.CanSettle invoice := by
  obtain ⟨w', hw', ⟨hnone, -⟩ | ⟨conf, -, hrun⟩⟩ := claimFunded_run env ref current_height first w
  · have hconf := hfollowed.confirmations
    rw [hnone] at hconf
    cases hconf
  obtain ⟨spending, db, hswap⟩ := hw'.swap
  have hnormal' : claimLocated env ref current_height first conf w'
      = claimNormal env ref first ((w'.heap ref).locktime - current_height) conf w' :=
    claimLocated_normal hfollowed.notDeep (by rw [hswap]; exact hnormal)
  have hfinal := final_congr (hrun.trans hnormal')
  have hcan : w'.CanSettle invoice ↔ w.CanSettle invoice := by
    unfold World.CanSettle World.Open World.Answered
    rw [hw'.trace]
  have hemits : Emits (claimFunded env ref current_height first) w
      (.settled (w.heap ref).paymentHash x) ↔
      Emits (claimNormal env ref first ((w'.heap ref).locktime - current_height) conf) w'
        (.settled (w.heap ref).paymentHash x) := by
    unfold Emits
    rw [hfinal, hw'.trace]
  rw [hemits]
  by_cases hunknown : (w.heap ref).preimage = none
  · obtain ⟨spent_height, hspent⟩ := Option.isSome_iff_exists.mp hfollowed.spent
    have hinvoice' : w'.getHoldInvoice (w'.heap ref).paymentHash = some invoice := by
      unfold World.getHoldInvoice
      rw [hw'.holdInvoices, hswap]
      exact hinvoice
    have hiff := claimNormal_emits_iff env (by rw [hswap]; exact hunknown) hspent hfollowed.fetched
      hinvoice' hfull hrequests ((w'.heap ref).locktime - current_height) conf hnonempty
    have hhash : (w'.heap ref).paymentHash = (w.heap ref).paymentHash := by rw [hswap]
    rw [hhash] at hiff
    rw [hiff, hcan]
    exact ⟨fun h => ⟨hunknown, h⟩, fun h => h.2⟩
  · refine iff_of_false ?_ fun h => hunknown h.1
    refine (claimNormal_known env first ?_ _ _).not_emits fun h => h _ _ rfl
    rw [hswap]
    exact Option.isSome_iff_ne_none.mpr hunknown

/-- **What it takes for a call to settle with `x`**: the swap does not know its preimage yet, the call
finds `x`, and each accepted HTLC can be settled. -/
theorem claimSwap_settles_iff_of_can (env : Env) {ref : SwapRef} {w : World} {current_height : Nat}
    {txos : List PartialTxInput} {invoice : HoldInvoice} {x : Bytes}
    (hup : env.isUpToDate = some true) (hheight : env.localHeight = some current_height)
    (htxos : env.addrOutputs (w.heap ref).lockupAddress = some txos)
    (hnormal : (w.heap ref).isReverse = false)
    (hinvoice : w.getHoldInvoice (w.heap ref).paymentHash = some invoice)
    (hfull : invoice.isFullyFunded = true)
    (hrequests : ∀ h ∈ invoice.incomingHtlcs, ∀ r, h.requestCallback = some r →
      r.htlc.key = h.key) (hnonempty : x ≠ []) (hx : sha256 x = (w.heap ref).paymentHash) :
    Emits (claimSwap env ref) w (.settled (w.heap ref).paymentHash x) ↔
      (w.heap ref).preimage = none ∧ FindsPreimage env (w.heap ref) current_height x ∧
      w.CanSettle invoice := by
  have hnot : ∀ {s : World}, final (claimSwap env ref) w = s → SaysOnly Event.SettlesNone w s →
      ¬ Emits (claimSwap env ref) w (.settled (w.heap ref).paymentHash x) := by
    intro s hs hsays
    exact SaysOnly.not_emits (P := Event.SettlesNone) (hs.symm ▸ hsays) fun h => h _ _ rfl
  have hrun := claimSwap_run hup hheight htxos
  cases txos with
  | nil =>
    refine iff_of_false (hnot (final_congr hrun) ?_) ?_
    · refine Keeps.final (I := SaysOnly Event.SettlesNone w) ?_ (SaysOnly.refl w)
      exact Keeps.ite (says_quiet (fun w₀ => quiet_failSwap env w₀ ref) w) Keeps.pure
    · rintro ⟨-, ⟨first, spending_tx, ⟨⟨txos, htxos'⟩, -⟩, -⟩, -⟩
      rw [htxos] at htxos'
      cases htxos'
  | cons first txos =>
    have hselected : selectTxo (w.heap ref) (first :: txos) = .ok (some first) := by
      unfold selectTxo
      rw [hnormal]
      rfl
    rw [hselected] at hrun
    have hfunded : claimSwap env ref w = claimFunded env ref current_height first w := hrun
    by_cases hfollowed : ∃ spending_tx,
        SpendFollowed env (w.heap ref) current_height first spending_tx
    swap
    · refine iff_of_false (hnot (final_congr hfunded) (claimFunded_silent env hnormal ?_)) ?_
      · rintro - hconf hdeep ⟨spending_tx, hspent, hfetched⟩
        exact hfollowed ⟨spending_tx, ⟨txos, htxos⟩, hconf, hspent, hdeep, hfetched⟩
      · rintro ⟨-, ⟨first', spending_tx, hfollowed', -⟩, -⟩
        obtain ⟨txos', htxos'⟩ := hfollowed'.listed
        rw [htxos] at htxos'
        cases htxos'
        exact hfollowed ⟨spending_tx, hfollowed'⟩
    obtain ⟨spending_tx, hfollowed⟩ := hfollowed
    have hemits : Emits (claimSwap env ref) w (.settled (w.heap ref).paymentHash x) ↔
        Emits (claimFunded env ref current_height first) w
          (.settled (w.heap ref).paymentHash x) := by
      unfold Emits
      rw [final_congr hfunded]
    rw [hemits, claimFunded_emits_iff env hfollowed hnormal hinvoice hfull hrequests hnonempty]
    refine and_congr_right fun _ => and_congr_left fun _ => ?_
    constructor
    · intro hextract
      have hshown := extractPreimage_shown hextract
      exact ⟨first, spending_tx, hfollowed, hshown,
        (extractPreimage_eq_some_iff hx hshown).mp hextract⟩
    · rintro ⟨first', spending_tx', hfollowed', hshown, hpasses⟩
      obtain ⟨rfl, rfl⟩ := hfollowed.unique hfollowed'
      exact (extractPreimage_eq_some_iff hx hshown).mpr hpasses

omit [Deployment] in
theorem World.canSettle_iff {w : World} {invoice : HoldInvoice}
    (hcallbacks : ∀ h ∈ invoice.incomingHtlcs, h.state = .accepted →
      h.requestCallback.isSome = true) :
    w.CanSettle invoice ↔ ∀ h ∈ invoice.incomingHtlcs, h.state = .accepted →
      ∀ r, h.requestCallback = some r → ¬ w.Answered r := by
  constructor
  · intro hcan h hh hacc r hr
    obtain ⟨r', hr', hopen⟩ := hcan h hh hacc
    rw [hr] at hr'
    cases hr'
    exact hopen
  · intro hopen h hh hacc
    obtain ⟨r, hr⟩ := Option.isSome_iff_exists.mp (hcallbacks h hh hacc)
    exact ⟨r, hr, hopen h hh hacc r hr⟩

/-- The same in a state that has been reached, for a swap whose invoice is funded. -/
theorem claimSwap_settles_iff (env : Env) {ref : SwapRef} {w : World}
    (hreach : Reachable (fun _ _ => True) w) {current_height : Nat} {own : PartialTxInput}
    {claim_tx : Transaction} {invoice : HoldInvoice} {x : Bytes}
    (hnormal : (w.heap ref).isReverse = false)
    (hvisible : ClaimVisible env (w.heap ref) current_height own claim_tx x)
    (hinvoice : w.getHoldInvoice (w.heap ref).paymentHash = some invoice)
    (hfunded : invoice.fundingStatus = .funded)
    (hcallbacks : ∀ h ∈ invoice.incomingHtlcs, h.state = .accepted →
      h.requestCallback.isSome = true) :
    Emits (claimSwap env ref) w (.settled (w.heap ref).paymentHash x) ↔
      (w.heap ref).preimage = none ∧ FindsPreimage env (w.heap ref) current_height x ∧
      ∀ h ∈ invoice.incomingHtlcs, h.state = .accepted →
        ∀ r, h.requestCallback = some r → ¬ w.Answered r := by
  have hok := hreach.invoiceOk hinvoice
  have hnonempty : x ≠ [] := by
    rintro rfl
    cases hvisible.length
  obtain ⟨txos, htxos, -⟩ := hvisible.listed
  rw [claimSwap_settles_iff_of_can env hvisible.upToDate hvisible.height htxos hnormal hinvoice
    (hok.funded hfunded) hok.callbacks hnonempty hvisible.hash, World.canSettle_iff hcallbacks]

/-- Where the claimed output is the one listed first, the inputs in front of the claim decide. -/
theorem ClaimSeen.finds_iff {env : Env} {swap : SwapData} {current_height : Nat}
    {own : PartialTxInput} {claim_tx : Transaction} {x : Bytes}
    (h : ClaimSeen env swap current_height own claim_tx x)
    (hfirst : ∃ txos, env.addrOutputs swap.lockupAddress = some (own :: txos))
    (hconf : (env.confirmations own.prevout.txid).isSome = true) :
    FindsPreimage env swap current_height x ↔
      PassesOver swap.paymentHash (inputsBefore x claim_tx.witnesses) := by
  have hfollowed : SpendFollowed env swap current_height own claim_tx :=
    ⟨hfirst, hconf, h.spent, h.notDeep, h.fetched⟩
  constructor
  · rintro ⟨first, spending_tx, hfollowed', -, hpasses⟩
    obtain ⟨rfl, rfl⟩ := hfollowed.unique hfollowed'
    exact hpasses
  · intro hpasses
    obtain ⟨witness, hmem, sig, helements⟩ := h.claimed
    refine ⟨own, claim_tx, hfollowed, ⟨witness, hmem, ?_⟩, hpasses⟩
    unfold showsPreimage preimageOfWitness
    rw [helements]
    exact decide_eq_true rfl

end

section Sample

open Sample

attribute [local instance] Sample.deployment

/-- The state after the client has paid and the lockup address has been funded. -/
def afterFunding : World := runOf fundedRun World.start

/-- The invoice of the payment hash is funded, and each HTLC of it can be settled. -/
def World.readyToSettle (w : World) (payment_hash : Bytes) : Bool :=
  (w.getHoldInvoice payment_hash).any fun invoice =>
    invoice.fundingStatus = .funded ∧ invoice.incomingHtlcs.elems.all fun h =>
      h.requestCallback.any fun r => !decide (w.Answered r)

theorem World.readyToSettle_invoice {w : World} {payment_hash : Bytes}
    (h : w.readyToSettle payment_hash = true) :
    ∃ invoice, w.getHoldInvoice payment_hash = some invoice ∧ invoice.fundingStatus = .funded ∧
      ∀ h ∈ invoice.incomingHtlcs, w.Open h := by
  obtain ⟨invoice, hinvoice, h⟩ := (Option.any_eq_true _ _).mp h
  obtain ⟨hfunded, hall⟩ := of_decide_eq_true h
  refine ⟨invoice, hinvoice, hfunded, fun h hh => ?_⟩
  obtain ⟨r, hr, hnot⟩ := (Option.any_eq_true _ _).mp (List.all_eq_true.mp hall h hh)
  exact ⟨r, hr, by simpa using hnot⟩

/-- The client's claim of the lockup output, as `sign_tx` writes a witness. -/
def claimWitnessOf (w : World) (ref : SwapRef) : Bytes :=
  constructWitness [List.replicate 71 9, Sample.preimage, (w.heap ref).redeemScript]

theorem witnessElements_claimWitnessOf {w : World} {ref : SwapRef}
    (h : (w.heap ref).redeemScript.length < 2 ^ 64) :
    witnessElements (some (claimWitnessOf w ref))
      = some [List.replicate 71 9, Sample.preimage, (w.heap ref).redeemScript] := by
  refine witnessElements_constructWitness _ (by simp) fun item hitem => ?_
  simp only [List.mem_cons, List.not_mem_nil, or_false] at hitem
  rcases hitem with rfl | rfl | rfl
  · decide
  · decide
  · exact h

/-- The output is followed where it is the only one. -/
theorem selects_spentEnv (swap : SwapData) (hnormal : swap.isReverse = false) (spent_height : Nat)
    (witnesses : List (Option Bytes)) :
    Selects (spentEnv spent_height witnesses) swap 900000 (spentOutput spent_height) where
  upToDate := rfl
  height := rfl
  selected := ⟨_, rfl, by unfold selectTxo; rw [hnormal]; rfl⟩

/-- A claim of the lockup output in the newest block, among other inputs, is seen. -/
theorem claimSeen_spentEnv {w : World} {ref : SwapRef} (swap : SwapData)
    (hhash : swap.paymentHash = sha256 Sample.preimage)
    (hscript : swap.redeemScript = (w.heap ref).redeemScript)
    (hlength : (w.heap ref).redeemScript.length < 2 ^ 64) {witnesses : List (Option Bytes)}
    (hmem : some (claimWitnessOf w ref) ∈ witnesses) :
    ClaimSeen (spentEnv 900000 witnesses) swap 900000 (spentOutput 900000)
      { witnesses, outputValues := [] } Sample.preimage where
  upToDate := rfl
  height := rfl
  listed := ⟨_, rfl, List.mem_cons_self⟩
  spent := rfl
  fetched := ⟨_, rfl, rfl⟩
  length := by decide
  hash := hhash.symm
  claimed := by
    refine ⟨_, hmem, List.replicate 71 9, ?_⟩
    rw [hscript]
    exact witnessElements_claimWitnessOf hlength
  notDeep := by decide

end Sample

end SubswapProvider
