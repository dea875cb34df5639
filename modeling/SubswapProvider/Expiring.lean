import SubswapProvider.Library.Restart
import SubswapProvider.Settling
import SubswapProvider.Walking
import SubswapProvider.Writing

/-!
# The expiry pass

`monitor_expiries` goes through the hold invoices until it has cancelled one that is overdue, and
starts over; it sleeps when it has come to the end of the table or an exception has been logged. Its
purpose is that no invoice stays overdue (`ExpiresExactly`). It always comes to an end, since every
restart has deleted an invoice (`expiryLoop_ends`).

Three things end it early, with the invoice it is at still there and every one behind it not looked at:
an accepted HTLC whose callback takes no result, a datastore write that fails, and a prepay invoice
that is still stored. The last of them is no rare case: `prepay_invoice := … is not None` binds the
comparison, and `True` has no HTLCs to cancel. `Clears` says when nothing of the kind happens
(`expiryLoop_exact_iff`).
-/

namespace SubswapProvider

open Effect

/-! ## The loop -/

/-- The body of the `for` loop. -/
def expiryTurn (env : Env) (payment_hash : Hex) : PyM Unit := do
  let w ← get
  let expired ← checkInvoiceExpiry env (w.holdInvoices.get? payment_hash)
  if expired then throw .RestartLoop else pure ()

/-- One pass over the hold invoices. -/
def expiryPass (env : Env) : PyM Unit := do
  let w ← get
  w.holdInvoices.dict.keys.forM (expiryTurn env)

/-- Between two sleeps the passes lead from `w` to `w'`: `RestartLoop` starts the next one, anything
else ends them. -/
def ExpiryEnds (env : Env) (w w' : World) : Prop :=
  EndsIn (expiryPass env) (· = .RestartLoop) w w'

/-- A pass is a step of the process. -/
theorem monitorExpiries_eq (env : Env) :
    monitorExpiries env = tryCatch (expiryPass env) fun _ => pure () := rfl

/-! ## Overdue invoices -/

/-- The invoice is past its expiry, and neither `FUNDED` nor `SETTLED`. -/
def HoldInvoice.Overdue (env : Env) (inv : HoldInvoice) : Prop :=
  (inv.createdAt + inv.expiry) * 1000000000 < env.timeNs ∧ inv.fundingStatus ≠ .funded ∧
    inv.fundingStatus ≠ .settled

instance (env : Env) (inv : HoldInvoice) : Decidable (inv.Overdue env) :=
  inferInstanceAs (Decidable (_ ∧ _))

/-- The overdue invoices in the order of the table. -/
def World.overdue (env : Env) (w : World) : List HoldInvoice :=
  (w.holdInvoices.dict.items.map Prod.snd).filter (·.Overdue env)

/-- The callbacks of the accepted HTLCs. -/
def acceptedRequests (l : List Htlc) : List Request :=
  (l.filter (·.state = .accepted)).filterMap (·.requestCallback)

/-- Each accepted HTLC has a callback of its own that has no result yet. -/
structure World.Answerable (w : World) (l : List Htlc) : Prop where
  opens : ∀ h ∈ l, h.state = .accepted → w.Open h
  own : (acceptedRequests l).Nodup

/-! ## What the pass is there for -/

/-- The expiry pass is complete and exact: it has led from `w` to `w'`. -/
structure ExpiresExactly (env : Env) (w w' : World) : Prop where
  /-- No invoice that is stored is overdue. -/
  complete : ∀ k inv, w'.holdInvoices.get? k = some inv → ¬ inv.Overdue env
  /-- The accepted HTLCs of an invoice that has been removed have been failed. -/
  failed : ∀ k inv, w.holdInvoices.get? k = some inv → w'.holdInvoices.get? k = none →
    ∃ said, w'.trace = said ++ w.trace ∧ ∀ h ∈ inv.incomingHtlcs, h.state = .accepted →
      ∃ request, h.requestCallback = some request ∧ .answer request (.fail "400F") ∈ said
  /-- Its prepay invoice has gone with it, unless that is settled. -/
  prepay : ∀ k inv p prepay, w.holdInvoices.get? k = some inv → w'.holdInvoices.get? k = none →
    inv.associatedInvoice = some p → w.getHoldInvoice p = some prepay →
    prepay.fundingStatus ≠ .settled → w'.getHoldInvoice p = none
  /-- An invoice that is neither overdue nor the prepay invoice of such a one is unchanged. -/
  others : ∀ k inv, w.holdInvoices.get? k = some inv → ¬ inv.Overdue env →
    (inv.fundingStatus = .settled ∨ ∀ main ∈ w.overdue env,
      main.associatedInvoice ≠ some inv.paymentHash) → w'.holdInvoices.get? k = some inv
  /-- No invoice is added. -/
  added : ∀ k inv, w'.holdInvoices.get? k = some inv → w.holdInvoices.get? k = some inv

/-- Nothing ends the passes before they have gone through all overdue invoices. -/
structure Clears (env : Env) (w : World) : Prop where
  /-- The prepay invoice of an overdue invoice is gone when it is that invoice's turn: it is not
  stored, or is overdue itself and stands in front of it. -/
  prepays : ∀ pre main post, w.overdue env = pre ++ main :: post →
    ∀ p, main.associatedInvoice = some p → (w.getHoldInvoice p).isSome = true →
      p ∈ pre.map (·.paymentHash)
  htlcs : w.Answerable ((w.overdue env).flatMap (·.incomingHtlcs.elems))
  /-- Every write goes through; the last one, after which no invoice is overdue, need not. -/
  writes : ∀ n, n + 1 < (w.overdue env).length → env.writeFails (w.db.calls + n) = false

section

variable {env : Env} {w w' : World} {k : Hex} {inv : HoldInvoice} {l m : List Htlc}

theorem mem_acceptedRequests {r : Request} :
    r ∈ acceptedRequests l ↔ ∃ h ∈ l, h.state = .accepted ∧ h.requestCallback = some r := by
  unfold acceptedRequests
  simp [and_assoc]

theorem acceptedRequests_append :
    acceptedRequests (l ++ m) = acceptedRequests l ++ acceptedRequests m := by
  simp [acceptedRequests]

/-! ## The callbacks -/

/-- The requests have been answered since, and no others. -/
def World.AnswersAll (w w' : World) (requests : List Request) (res : HookResult) : Prop :=
  w'.trace = (requests.map (.answer · res)).reverse ++ w.trace

theorem World.AnswersAll.answered_iff {requests : List Request} {res : HookResult}
    (h : w.AnswersAll w' requests res) (r : Request) :
    w'.Answered r ↔ r ∈ requests ∨ w.Answered r := by
  constructor
  · rintro ⟨res', hmem⟩
    rw [h, List.mem_append, List.mem_reverse] at hmem
    rcases hmem with hmem | hmem
    · obtain ⟨r', hr', heq⟩ := List.mem_map.mp hmem
      cases heq
      exact .inl hr'
    · exact .inr ⟨res', hmem⟩
  · rintro (hr | ⟨res', hmem⟩)
    · refine ⟨res, ?_⟩
      rw [h]
      exact List.mem_append_left _ (List.mem_reverse.mpr (List.mem_map_of_mem hr))
    · refine ⟨res', ?_⟩
      rw [h]
      exact List.mem_append_right _ hmem

/-- Some more callbacks can be answered behind others. -/
theorem World.answerable_behind (h : ∀ r, w'.Answered r ↔ r ∈ acceptedRequests l ∨ w.Answered r) :
    w.Answerable (l ++ m) ↔ w.Answerable l ∧ w'.Answerable m := by
  constructor
  · rintro ⟨hopens, hown⟩
    rw [acceptedRequests_append, List.nodup_append] at hown
    obtain ⟨hl, hm, hdisjoint⟩ := hown
    refine ⟨⟨fun a ha => hopens a (List.mem_append_left m ha), hl⟩, ?_, hm⟩
    intro a ha hacc
    obtain ⟨r, hr, hopen⟩ := hopens a (List.mem_append_right l ha) hacc
    refine ⟨r, hr, fun hanswered => ?_⟩
    rcases (h r).mp hanswered with hmem | hbefore
    · exact hdisjoint r hmem r (mem_acceptedRequests.mpr ⟨a, ha, hacc, hr⟩) rfl
    · exact hopen hbefore
  · rintro ⟨⟨hopens, hl⟩, ⟨hopens', hm⟩⟩
    constructor
    · intro a ha hacc
      rcases List.mem_append.mp ha with ha | ha
      · exact hopens a ha hacc
      · obtain ⟨r, hr, hopen⟩ := hopens' a ha hacc
        exact ⟨r, hr, fun hbefore => hopen ((h r).mpr (.inr hbefore))⟩
    · rw [acceptedRequests_append, List.nodup_append]
      refine ⟨hl, hm, ?_⟩
      rintro r hr _ hmem rfl
      obtain ⟨a, ha, hacc, hcallback⟩ := mem_acceptedRequests.mp hmem
      obtain ⟨r', hr', hopen⟩ := hopens' a ha hacc
      rw [hcallback] at hr'
      cases hr'
      exact hopen ((h r).mpr (.inl hr))

theorem World.answerable_append {res : HookResult}
    (h : w.AnswersAll w' (acceptedRequests l) res) :
    w.Answerable (l ++ m) ↔ w.Answerable l ∧ w'.Answerable m :=
  World.answerable_behind h.answered_iff

/-- Nothing has changed but the invoice under `k`, and that is still there. -/
structure World.Within (k : Hex) (w w' : World) : Prop where
  rest : w'.holdInvoices.pop k = w.holdInvoices.pop k
  stored : (w'.holdInvoices.get? k).isSome = (w.holdInvoices.get? k).isSome
  db : w'.db = w.db

theorem World.Within.refl (k : Hex) (w : World) : w.Within k w := ⟨rfl, rfl, rfl⟩

theorem World.Within.trans {w'' : World} (h : w.Within k w') (h' : w'.Within k w'') :
    w.Within k w'' :=
  ⟨h'.rest.trans h.rest, h'.stored.trans h.stored, h'.db.trans h.db⟩

theorem World.Within.get?_ne (h : w.Within k w') {k' : Hex} (hne : k' ≠ k) :
    w'.holdInvoices.get? k' = w.holdInvoices.get? k' := by
  have hrest := congrArg (HoldInvoices.get? · k') h.rest
  simpa [HoldInvoices.get?_pop, hne] using hrest

theorem World.within_mutHoldInvoice (k : Hex) (f : HoldInvoice → HoldInvoice)
    (hf : ∀ inv, (f inv).paymentHash = inv.paymentHash) (w : World) :
    w.Within k (w.mutHoldInvoice k f hf) where
  rest := HoldInvoices.ext (Dict.pop_modify _ k f)
  stored := Dict.contains_modify _ k k f
  db := rfl

theorem World.Within.say {e : Event} (h : w.Within k w') : w.Within k (w'.say e) :=
  ⟨h.rest, h.stored, h.db⟩

/-- **The loop over accepted HTLCs, each with an open callback of its own**: every callback gets the
result. -/
theorem resolveAll_answers (k : Hex) (st : HtlcState) (res : HookResult) (h : w.Answerable l) :
    ∃ w', (l.forM fun h => if h.state = .accepted then resolveHtlc k h st res else pure ()) w
        = .ok () w' ∧ w.AnswersAll w' (acceptedRequests l) res ∧ w.Within k w' := by
  induction l generalizing w with
  | nil => exact ⟨w, rfl, rfl, .refl k w⟩
  | cons a l ih =>
    show ∃ w', ((if a.state = .accepted then resolveHtlc k a st res else pure ()) >>= fun _ =>
      l.forM fun h => if h.state = .accepted then resolveHtlc k h st res else pure ()) w = _ ∧ _
    by_cases hacc : a.state = .accepted
    · obtain ⟨r, hr, hopen⟩ := h.opens a List.mem_cons_self hacc
      have hfirst : acceptedRequests [a] = [r] := by simp [acceptedRequests, hacc, hr]
      have hrun := resolveHtlc_open k st res hacc hr hopen
      generalize hw₁ : (w.mutHoldInvoice k (·.setHtlcState a.key st) fun _ => rfl).say
        (.answer r res) = w₁ at hrun
      have hone : w.AnswersAll w₁ (acceptedRequests [a]) res := by
        rw [hfirst, ← hw₁]
        rfl
      have hwithin : w.Within k w₁ := by
        rw [← hw₁]
        exact (World.within_mutHoldInvoice k _ _ w).say
      obtain ⟨w', hrest, hall, hwithin'⟩ := ih ((World.answerable_append hone).mp h).2
      refine ⟨w', ?_, ?_, hwithin.trans hwithin'⟩
      · rw [if_pos hacc, bind_ok hrun]
        exact hrest
      · have hcons : acceptedRequests (a :: l) = r :: acceptedRequests l := by
          rw [← List.singleton_append, acceptedRequests_append, hfirst]
          rfl
        unfold World.AnswersAll at *
        rw [hall, hone, hcons, hfirst]
        simp
    · have hnone : acceptedRequests (a :: l) = acceptedRequests l := by
        simp [acceptedRequests, hacc]
      rw [if_neg hacc, pure_bind, hnone]
      exact ih ⟨fun b hb => h.opens b (List.mem_cons_of_mem a hb), hnone ▸ h.own⟩

/-- Otherwise the loop is stopped. -/
theorem resolveAll_stops (k : Hex) (st : HtlcState) (res : HookResult) (h : ¬ w.Answerable l) :
    returns (l.forM fun h => if h.state = .accepted then resolveHtlc k h st res else pure ()) w
      = false := by
  induction l generalizing w with
  | nil => exact absurd ⟨fun _ ha => absurd ha List.not_mem_nil, List.nodup_nil⟩ h
  | cons a l ih =>
    show returns ((if a.state = .accepted then resolveHtlc k a st res else pure ()) >>= fun _ =>
      l.forM fun h => if h.state = .accepted then resolveHtlc k h st res else pure ()) w = _
    by_cases hacc : a.state = .accepted
    · rw [if_pos hacc]
      by_cases hopen : w.Open a
      · obtain ⟨r, hr, hopen⟩ := hopen
        have hfirst : acceptedRequests [a] = [r] := by simp [acceptedRequests, hacc, hr]
        have hrun := resolveHtlc_open k st res hacc hr hopen
        generalize hw₁ : (w.mutHoldInvoice k (·.setHtlcState a.key st) fun _ => rfl).say
          (.answer r res) = w₁ at hrun
        have hone : w.AnswersAll w₁ (acceptedRequests [a]) res := by
          rw [hfirst, ← hw₁]
          rfl
        have hself : w.Answerable [a] := by
          refine ⟨?_, by rw [hfirst]; exact List.nodup_singleton r⟩
          intro b hb _
          rw [List.mem_singleton.mp hb]
          exact ⟨r, hr, hopen⟩
        unfold returns
        rw [bind_ok hrun]
        exact ih fun hrest => h ((World.answerable_append hone).mpr ⟨hself, hrest⟩)
      · obtain ⟨e, w', hrun⟩ := resolveHtlc_raises k st res hacc hopen
        unfold returns
        rw [bind_error hrun]
    · have hnone : acceptedRequests (a :: l) = acceptedRequests l := by
        simp [acceptedRequests, hacc]
      rw [if_neg hacc, pure_bind]
      apply ih
      rintro ⟨hopens, hown⟩
      refine h ⟨fun b hb hb' => ?_, hnone ▸ hown⟩
      rcases List.mem_cons.mp hb with rfl | hb
      · exact absurd hb' hacc
      · exact hopens b hb hb'

/-! ## One turn -/

/-- An overdue invoice is stored under `k`. -/
def World.OverdueAt (env : Env) (k : Hex) (w : World) : Prop :=
  ∃ inv, w.holdInvoices.get? k = some inv ∧ inv.Overdue env

theorem World.OverdueAt.mutHoldInvoice {f : HoldInvoice → HoldInvoice}
    {hf : ∀ inv, (f inv).paymentHash = inv.paymentHash}
    (hover : ∀ inv : HoldInvoice, inv.Overdue env → (f inv).Overdue env) (k' : Hex)
    (h : w.OverdueAt env k) : (w.mutHoldInvoice k' f hf).OverdueAt env k := by
  obtain ⟨inv, hget, hinv⟩ := h
  by_cases hk : k = k'
  · subst hk
    refine ⟨f inv, ?_, hover inv hinv⟩
    apply (World.get?_mutHoldInvoice _).trans
    rw [if_pos rfl, hget]
    rfl
  · refine ⟨inv, ?_, hinv⟩
    apply (World.get?_mutHoldInvoice _).trans
    rw [if_neg hk, hget]

/-- Failing HTLCs leaves an overdue invoice overdue. -/
theorem overdueAt_failHtlc (k' : Hex) (h : Htlc) :
    Keeps (World.OverdueAt env k) (failHtlc k' h) := by
  unfold failHtlc resolveHtlc
  refine Keeps.ite ?_ Keeps.throw
  split
  · exact Keeps.throw
  · refine Keeps.bind (Keeps.modify fun s hs =>
      hs.mutHoldInvoice (f := (·.setHtlcState h.key .cancelled)) (fun _ hinv => hinv) k') fun _ => ?_
    exact Keeps.get fun _ => Keeps.ite (Keeps.bind (Keeps.modify fun _ hs => hs) fun _ => Keeps.throw)
      (Keeps.modify fun _ hs => hs)

theorem overdueAt_cancelAllHtlcs (inv : HoldInvoice) :
    Keeps (World.OverdueAt env k) (cancelAllHtlcs inv) := by
  refine Keeps.bind (Keeps.forM fun h _ => Keeps.ite (overdueAt_failHtlc _ h) Keeps.pure) fun _ => ?_
  refine Keeps.modify fun s hs => hs.mutHoldInvoice (fun _ hinv => ?_) _
  exact ⟨hinv.1, InvoiceState.noConfusion, InvoiceState.noConfusion⟩

theorem raises_resolveHtlc (k : Hex) (h : Htlc) (st : HtlcState) (res : HookResult) :
    RaisesOnly (· ≠ .RestartLoop) (resolveHtlc k h st res) := by
  unfold resolveHtlc
  refine RaisesOnly.ite ?_ (RaisesOnly.throw (by decide))
  split
  · exact RaisesOnly.throw (by decide)
  · refine RaisesOnly.bind RaisesOnly.modify fun _ => RaisesOnly.get fun _ => RaisesOnly.ite ?_ ?_
    · exact RaisesOnly.bind RaisesOnly.modify fun _ => RaisesOnly.throw (by decide)
    · exact RaisesOnly.modify

theorem raises_cancelAllHtlcs (inv : HoldInvoice) :
    RaisesOnly (· ≠ .RestartLoop) (cancelAllHtlcs inv) := by
  refine RaisesOnly.bind (Triple.forM (I := fun _ => True) fun h _ => ?_) fun _ => RaisesOnly.modify
  exact RaisesOnly.ite (raises_resolveHtlc _ h _ _) RaisesOnly.pure

/-- `cancel_all_htlcs` of an invoice whose HTLCs can be answered. -/
theorem cancelAllHtlcs_answers (h : w.Answerable inv.incomingHtlcs.elems) :
    ∃ w', cancelAllHtlcs inv w = .ok ⟨⟩ w' ∧
      w.AnswersAll w' (acceptedRequests inv.incomingHtlcs.elems) (.fail "400F") ∧
      w.Within (hex inv.paymentHash) w' := by
  obtain ⟨s, hrun, hall, hwithin⟩ :=
    resolveAll_answers (hex inv.paymentHash) .cancelled (.fail "400F") h
  refine ⟨s.mutHoldInvoice (hex inv.paymentHash) (·.setFundingStatus .failed) fun _ => rfl, ?_, hall,
    hwithin.trans (World.within_mutHoldInvoice _ _ _ s)⟩
  exact bind_ok hrun

/-- Of another one it raises. -/
theorem cancelAllHtlcs_stops (h : ¬ w.Answerable inv.incomingHtlcs.elems) :
    ∃ e w', cancelAllHtlcs inv w = .error e w' := by
  have hstops := resolveAll_stops (hex inv.paymentHash) .cancelled (.fail "400F") h
  unfold returns at hstops
  split at hstops
  · cases hstops
  · next e s hr => exact ⟨e, s, bind_error hr⟩

/-- The invoice is gone and its accepted HTLCs have been failed. -/
structure World.Removes (w : World) (inv : HoldInvoice) (w' : World) : Prop where
  invoices : w'.holdInvoices = w.holdInvoices.pop (hex inv.paymentHash)
  answers : w.AnswersAll w' (acceptedRequests inv.incomingHtlcs.elems) (.fail "400F")
  calls : w'.db.calls = w.db.calls + 1

/-- The turn of this invoice can go through: its HTLCs can be answered, and it has no prepay invoice
that is still stored. -/
structure World.CanExpire (w : World) (inv : HoldInvoice) : Prop where
  htlcs : w.Answerable inv.incomingHtlcs.elems
  prepay : ∀ p, inv.associatedInvoice = some p → w.getHoldInvoice p = none

/-- The state in which `delete_hold_invoice` writes. -/
def World.dropHoldInvoice (k : Hex) (w : World) : World :=
  ({ w with holdInvoiceCallbacks := w.holdInvoiceCallbacks.pop k } : World).popHoldInvoice k

variable (env) in
/-- What has been dropped is yet to be written. -/
theorem World.dropHoldInvoice_frame (hstored : (w.holdInvoices.get? k).isSome = true) :
    (w.dropHoldInvoice k).holdInvoices = w.holdInvoices.pop k ∧
      (w.dropHoldInvoice k).trace = w.trace ∧ (w.dropHoldInvoice k).views = w.views ∧
      (w.dropHoldInvoice k).db.calls = w.db.calls ∧
      (w.dropHoldInvoice k).db.writes env = true := by
  unfold World.dropHoldInvoice World.popHoldInvoice
  rw [if_pos hstored]
  exact ⟨rfl, rfl, rfl, rfl, Db.writes_of_pending rfl rfl⟩

/-- `delete_hold_invoice` of a stored invoice. -/
theorem deleteHoldInvoice_eq (env : Env) (hstored : (w.holdInvoices.get? k).isSome = true) :
    deleteHoldInvoice env k true w = if env.writeFails w.db.calls then
        .error .StorageReadWriteError (w.dropHoldInvoice k).called
      else .ok ⟨⟩ ((w.dropHoldInvoice k).written env) := by
  obtain ⟨-, -, -, hcalls, hwrites⟩ := World.dropHoldInvoice_frame env hstored
  have hrun : deleteHoldInvoice env k true w = dbWrite env (w.dropHoldInvoice k) := by
    show (get >>= fun w => if (w.holdInvoices.get? k).isSome then _ else _ : PyM Unit)
      { w with holdInvoiceCallbacks := w.holdInvoiceCallbacks.pop k } = _
    rw [get_bind, if_pos hstored]
    rfl
  rw [hrun, dbWrite_run, hwrites, Bool.true_and, hcalls]

theorem deleteHoldInvoice_run (env : Env) (hstored : (w.holdInvoices.get? k).isSome = true) :
    ∃ w', (deleteHoldInvoice env k true w = if env.writeFails w.db.calls then
        .error .StorageReadWriteError w' else .ok ⟨⟩ w') ∧
      w'.holdInvoices = w.holdInvoices.pop k ∧ w'.trace = w.trace ∧ w'.db.calls = w.db.calls + 1 := by
  obtain ⟨hinvoices, htrace, -, hcalls, -⟩ := World.dropHoldInvoice_frame env hstored
  have hwrote : ∀ w', (w.dropHoldInvoice k).Wrote w' → w'.holdInvoices = w.holdInvoices.pop k ∧
      w'.trace = w.trace ∧ w'.db.calls = w.db.calls + 1 := by
    rintro w' ⟨db, views, rfl, hdb⟩
    exact ⟨hinvoices, htrace, hdb.trans (by rw [hcalls])⟩
  rw [deleteHoldInvoice_eq env hstored]
  split
  · exact ⟨_, rfl, hwrote _ (World.wrote_called _)⟩
  · exact ⟨_, rfl, hwrote _ (World.wrote_written env _)⟩

/-- `check_invoice_expiry` of an overdue invoice. -/
theorem checkInvoiceExpiry_overdue (h : inv.Overdue env) :
    checkInvoiceExpiry env (some inv) = (do
      cancelAllHtlcs inv
      let w ← get
      let prepay_invoice := inv.associatedInvoice.any fun h => (w.getHoldInvoice h).isSome
      (if prepay_invoice then throw .AttributeError else pure ())
      deleteHoldInvoice env (hex inv.paymentHash) true
      pure true) := by
  unfold checkInvoiceExpiry
  exact if_pos h

/-- `check_invoice_expiry` of one whose turn can go through fails the HTLCs, and comes to the deletion. -/
theorem checkInvoiceExpiry_deletes (hget : w.holdInvoices.get? k = some inv) (hinv : inv.Overdue env)
    (h : w.CanExpire inv) : ∃ s, cancelAllHtlcs inv w = .ok ⟨⟩ s ∧
      w.AnswersAll s (acceptedRequests inv.incomingHtlcs.elems) (.fail "400F") ∧ w.Within k s ∧
      checkInvoiceExpiry env (some inv) w = (deleteHoldInvoice env k true >>= fun _ => pure true) s := by
  have hk : hex inv.paymentHash = k := HoldInvoices.hex_paymentHash hget
  obtain ⟨s, hcancel, hall, hwithin⟩ := cancelAllHtlcs_answers h.htlcs
  rw [hk] at hwithin
  -- the invoice itself is still stored, so it is not its own prepay invoice
  have hprepay : (inv.associatedInvoice.any fun p => (s.getHoldInvoice p).isSome) = false := by
    cases hp : inv.associatedInvoice with
    | none => rfl
    | some p =>
      have hgone : w.holdInvoices.get? (hex p) = none := h.prepay p hp
      have hne : hex p ≠ k := by
        intro heq
        rw [heq, hget] at hgone
        cases hgone
      show (s.holdInvoices.get? (hex p)).isSome = false
      rw [hwithin.get?_ne hne, hgone]
      rfl
  refine ⟨s, hcancel, hall, hwithin, ?_⟩
  rw [checkInvoiceExpiry_overdue hinv, bind_ok hcancel, get_bind, hprepay, hk]
  rfl

/-- **The turn of an overdue invoice that can go through**: it starts the loop over, or the write has
failed. -/
theorem expiryTurn_expires (hget : w.holdInvoices.get? k = some inv) (hinv : inv.Overdue env)
    (h : w.CanExpire inv) : ∃ w', w.Removes inv w' ∧ expiryTurn env k w = .error
      (if env.writeFails w.db.calls then .StorageReadWriteError else .RestartLoop) w' := by
  have hk : hex inv.paymentHash = k := HoldInvoices.hex_paymentHash hget
  obtain ⟨s, -, hall, hwithin, hcheck⟩ := checkInvoiceExpiry_deletes hget hinv h
  have hstored : (s.holdInvoices.get? k).isSome = true := by
    rw [hwithin.stored, hget]
    rfl
  obtain ⟨w', hdelete, hinvoices, htrace, hcalls⟩ := deleteHoldInvoice_run env hstored
  rw [hwithin.db] at hdelete hcalls
  refine ⟨w', ⟨?_, ?_, hcalls⟩, ?_⟩
  · rw [hk, hinvoices]
    exact hwithin.rest
  · unfold World.AnswersAll at hall ⊢
    rw [htrace]
    exact hall
  · show (checkInvoiceExpiry env (w.holdInvoices.get? k) >>= fun expired =>
      if expired then throw .RestartLoop else pure () : PyM Unit) w = _
    rw [hget]
    cases hfails : env.writeFails w.db.calls with
    | true =>
      rw [hfails, if_pos rfl] at hdelete
      exact bind_error (hcheck.trans (bind_error hdelete))
    | false =>
      rw [hfails, if_neg Bool.false_ne_true] at hdelete
      exact bind_ok (hcheck.trans (bind_ok hdelete))

/-- **The turn of an overdue invoice that cannot** ends the passes, and the invoice stays. -/
theorem expiryTurn_stuck (hget : w.holdInvoices.get? k = some inv) (hinv : inv.Overdue env)
    (h : ¬ w.CanExpire inv) : ∃ e w', expiryTurn env k w = .error e w' ∧ e ≠ .RestartLoop ∧
      w'.OverdueAt env k := by
  have hk : hex inv.paymentHash = k := HoldInvoices.hex_paymentHash hget
  have hcancel : Triple (World.OverdueAt env k) (cancelAllHtlcs inv)
      (fun _ => World.OverdueAt env k) (fun e s => e ≠ .RestartLoop ∧ s.OverdueAt env k) :=
    (raises_cancelAllHtlcs inv).and (overdueAt_cancelAllHtlcs inv)
  have hrun := hcancel w ⟨inv, hget, hinv⟩
  have hturn : ∀ e s, checkInvoiceExpiry env (some inv) w = .error e s →
      expiryTurn env k w = .error e s := by
    intro e s hcheck
    show (checkInvoiceExpiry env (w.holdInvoices.get? k) >>= fun expired =>
      if expired then throw .RestartLoop else pure () : PyM Unit) w = _
    rw [hget]
    exact bind_error hcheck
  rw [checkInvoiceExpiry_overdue hinv] at hturn
  by_cases hhtlcs : w.Answerable inv.incomingHtlcs.elems
  · obtain ⟨s, hok, -, hwithin⟩ := cancelAllHtlcs_answers hhtlcs
    rw [hok] at hrun
    rw [hk] at hwithin
    obtain ⟨p, hp, hstored⟩ : ∃ p, inv.associatedInvoice = some p ∧ w.getHoldInvoice p ≠ none := by
      by_contra hnone
      exact h ⟨hhtlcs, fun p hp => by_contra fun hne => hnone ⟨p, hp, hne⟩⟩
    have hstill : (s.getHoldInvoice p).isSome = true := by
      have hstored : (w.holdInvoices.get? (hex p)).isSome = true := Option.isSome_iff_ne_none.mpr hstored
      show (s.holdInvoices.get? (hex p)).isSome = true
      by_cases hself : hex p = k
      · rw [hself] at hstored ⊢
        rw [hwithin.stored]
        exact hstored
      · rw [hwithin.get?_ne hself]
        exact hstored
    refine ⟨.AttributeError, s, hturn _ _ ?_, by decide, hrun⟩
    rw [bind_ok hok, get_bind, hp, Option.any_some, hstill]
    rfl
  · obtain ⟨e, s, herror⟩ := cancelAllHtlcs_stops hhtlcs
    rw [herror] at hrun
    exact ⟨e, s, hturn _ _ (bind_error herror), hrun.1, hrun.2⟩

/-- The turn of any other invoice does nothing. -/
theorem expiryTurn_idle (h : ∀ inv, w.holdInvoices.get? k = some inv → ¬ inv.Overdue env) :
    expiryTurn env k w = .ok ⟨⟩ w := by
  show (checkInvoiceExpiry env (w.holdInvoices.get? k) >>= fun expired =>
    if expired then throw .RestartLoop else pure () : PyM Unit) w = _
  cases hget : w.holdInvoices.get? k with
  | none => rfl
  | some inv =>
    have hcheck : checkInvoiceExpiry env (some inv) = pure false := by
      unfold checkInvoiceExpiry
      exact if_neg (h inv hget)
    rw [hcheck]
    rfl

/-! ## One pass -/

/-- The invoices that stand in front of the first overdue one. -/
theorem World.items_of_overdue {rest : List HoldInvoice} (h : w.overdue env = inv :: rest) :
    ∃ pre post, w.holdInvoices.dict.items = pre ++ (hex inv.paymentHash, inv) :: post ∧
      (∀ p ∈ pre, ¬ p.2.Overdue env) ∧ inv.Overdue env ∧
      (post.map Prod.snd).filter (·.Overdue env) = rest := by
  obtain ⟨l₁, l₂, hsplit, hidle, hinv, hrest⟩ := List.filter_eq_cons_iff.mp h
  obtain ⟨pre, post', hitems, rfl, hpost⟩ := List.map_eq_append_iff.mp hsplit
  obtain ⟨⟨k, inv'⟩, post, rfl, rfl, rfl⟩ := List.map_eq_cons_iff.mp hpost
  have hget : w.holdInvoices.get? k = some inv' := by
    apply Dict.get?_of_mem (p := (k, inv'))
    rw [hitems]
    exact List.mem_append_right pre List.mem_cons_self
  refine ⟨pre, post, ?_, fun p hp => ?_, of_decide_eq_true hinv, hrest⟩
  · rw [HoldInvoices.hex_paymentHash hget]
    exact hitems
  · exact fun hover => hidle _ (List.mem_map_of_mem hp) (decide_eq_true hover)

theorem World.get?_of_item {p : Hex × HoldInvoice} (h : p ∈ w.holdInvoices.dict.items) :
    w.holdInvoices.get? p.1 = some p.2 := Dict.get?_of_mem h

/-- A pass that finds no overdue invoice goes through. -/
theorem expiryPass_idle (h : w.overdue env = []) : expiryPass env w = .ok ⟨⟩ w := by
  have hidle : ∀ k ∈ w.holdInvoices.dict.keys, expiryTurn env k w = .ok ⟨⟩ w := by
    intro k _
    apply expiryTurn_idle
    intro inv hget hinv
    have hmem : inv ∈ w.overdue env :=
      List.mem_filter.mpr ⟨List.mem_map_of_mem (Dict.mem_of_get? hget), decide_eq_true hinv⟩
    rw [h] at hmem
    cases hmem
  show w.holdInvoices.dict.keys.forM (expiryTurn env) w = _
  rw [← List.append_nil w.holdInvoices.dict.keys, forM_idle hidle]
  rfl

/-- Otherwise it ends with the turn of the first one. -/
theorem expiryPass_raises {rest : List HoldInvoice} {e : PyErr} (h : w.overdue env = inv :: rest)
    (hturn : expiryTurn env (hex inv.paymentHash) w = .error e w') :
    expiryPass env w = .error e w' := by
  obtain ⟨pre, post, hitems, hidle, -, -⟩ := World.items_of_overdue h
  have hkeys : w.holdInvoices.dict.keys
      = pre.map Prod.fst ++ hex inv.paymentHash :: post.map Prod.fst := by
    unfold Dict.keys
    rw [hitems, List.map_append, List.map_cons]
  have hpre : ∀ k ∈ pre.map Prod.fst, expiryTurn env k w = .ok ⟨⟩ w := by
    intro k hk
    obtain ⟨p, hp, rfl⟩ := List.mem_map.mp hk
    apply expiryTurn_idle
    intro inv' hget
    have hmem : p ∈ w.holdInvoices.dict.items := by
      rw [hitems]
      exact List.mem_append_left _ hp
    rw [World.get?_of_item hmem] at hget
    cases hget
    exact hidle p hp
  show w.holdInvoices.dict.keys.forM (expiryTurn env) w = _
  rw [hkeys, forM_idle hpre]
  exact forM_raises hturn

/-- The invoices that are overdue after the first one has gone. -/
theorem World.Removes.overdue {rest : List HoldInvoice} (h : w.overdue env = inv :: rest)
    (hexp : w.Removes inv w') : w'.overdue env = rest := by
  obtain ⟨pre, post, hitems, hidle, hinv, hrest⟩ := World.items_of_overdue h
  have hnodup := w.holdInvoices.dict.nodup
  rw [hitems, List.map_append, List.map_cons, List.nodup_append, List.nodup_cons] at hnodup
  obtain ⟨-, ⟨hpost, -⟩, hpre⟩ := hnodup
  have hleft : w'.holdInvoices.dict.items = pre ++ post := by
    rw [hexp.invoices]
    show w.holdInvoices.dict.items.filter (fun p => p.1 ≠ hex inv.paymentHash) = _
    rw [hitems, List.filter_append, List.filter_cons, if_neg (by simp)]
    congr 1
    · apply List.filter_eq_self.mpr
      intro p hp
      have := hpre p.1 (List.mem_map_of_mem hp) _ List.mem_cons_self
      simpa using this
    · apply List.filter_eq_self.mpr
      intro p hp
      have : p.1 ≠ hex inv.paymentHash := fun heq => hpost (List.mem_map.mpr ⟨p, hp, heq⟩)
      simpa using this
  unfold World.overdue
  rw [hleft, List.map_append, List.filter_append, hrest]
  have hnone : (pre.map Prod.snd).filter (·.Overdue env) = [] := by
    apply List.filter_eq_nil_iff.mpr
    intro inv' hmem
    obtain ⟨p, hp, rfl⟩ := List.mem_map.mp hmem
    simpa using hidle p hp
  rw [hnone, List.nil_append]

/-! ## The whole loop -/

theorem World.Answerable.nil (w : World) : w.Answerable [] :=
  ⟨fun _ ha => absurd ha List.not_mem_nil, List.nodup_nil⟩

theorem World.Answerable.left (h : w.Answerable (l ++ m)) : w.Answerable l := by
  refine ⟨fun a ha => h.opens a (List.mem_append_left m ha), ?_⟩
  have hown := h.own
  rw [acceptedRequests_append, List.nodup_append] at hown
  exact hown.1

theorem Clears.of_nil (h : w.overdue env = []) : Clears env w := by
  refine ⟨fun pre main post hsplit => ?_, ?_, fun n hn => ?_⟩
  · simp [h] at hsplit
  · rw [h]
    exact .nil w
  · simp [h] at hn

theorem Clears.canExpire {rest : List HoldInvoice} (h : Clears env w)
    (hl : w.overdue env = inv :: rest) : w.CanExpire inv := by
  refine ⟨?_, fun p hp => ?_⟩
  · have hhtlcs := h.htlcs
    rw [hl, List.flatMap_cons] at hhtlcs
    exact hhtlcs.left
  · by_contra hstored
    have hmem := h.prepays [] inv rest hl p hp (Option.isSome_iff_ne_none.mpr hstored)
    cases hmem

/-- The passes get beyond the first overdue invoice: what is left to ask of the others. -/
theorem clears_iff {rest : List HoldInvoice} (h : w.overdue env = inv :: rest)
    (hexp : w.Removes inv w') : Clears env w ↔
      w.CanExpire inv ∧ (rest ≠ [] → env.writeFails w.db.calls = false) ∧ Clears env w' := by
  have hrest : w'.overdue env = rest := hexp.overdue h
  have hlookup : ∀ p, (w'.getHoldInvoice p).isSome = true ↔
      p ≠ inv.paymentHash ∧ (w.getHoldInvoice p).isSome = true := by
    intro p
    show (w'.holdInvoices.get? (hex p)).isSome = true ↔ _ ∧ (w.holdInvoices.get? (hex p)).isSome = true
    rw [hexp.invoices, HoldInvoices.get?_pop]
    by_cases hp : p = inv.paymentHash
    · simp [hp]
    · simp [hp]
  constructor
  · intro hclears
    have hcan := hclears.canExpire h
    obtain ⟨hprepays, hhtlcs, hwrites⟩ := hclears
    rw [h] at hprepays hhtlcs hwrites
    rw [List.flatMap_cons] at hhtlcs
    refine ⟨hcan, fun hne => ?_, ⟨?_, ?_, ?_⟩⟩
    · have hpos : 0 < rest.length := List.length_pos_of_ne_nil hne
      exact hwrites 0 (by rw [List.length_cons]; omega)
    · intro pre main post hsplit p hp hstored
      rw [hrest] at hsplit
      obtain ⟨hne, hstored⟩ := (hlookup p).mp hstored
      have hmem := hprepays (inv :: pre) main post (by rw [hsplit]; rfl) p hp hstored
      rw [List.map_cons] at hmem
      exact (List.mem_cons.mp hmem).resolve_left hne
    · rw [hrest]
      exact ((World.answerable_append hexp.answers).mp hhtlcs).2
    · intro n hn
      rw [hrest] at hn
      rw [hexp.calls, Nat.add_assoc, Nat.add_comm 1 n]
      exact hwrites (n + 1) (by rw [List.length_cons]; omega)
  · rintro ⟨⟨hfirst, hprepay⟩, hwrite, ⟨hprepays, hhtlcs, hwrites⟩⟩
    rw [hrest] at hprepays hhtlcs hwrites
    refine ⟨?_, ?_, ?_⟩
    · intro pre main post hsplit p hp hstored
      rw [h] at hsplit
      cases pre with
      | nil =>
        cases hsplit
        rw [hprepay p hp] at hstored
        cases hstored
      | cons first pre =>
        injection hsplit with hfirst htail
        subst hfirst
        by_cases hself : p = inv.paymentHash
        · rw [hself]
          exact List.mem_cons_self
        · rw [List.map_cons]
          apply List.mem_cons_of_mem
          exact hprepays pre main post htail p hp ((hlookup p).mpr ⟨hself, hstored⟩)
    · rw [h, List.flatMap_cons]
      exact (World.answerable_append hexp.answers).mpr ⟨hfirst, hhtlcs⟩
    · intro n hn
      rw [h, List.length_cons] at hn
      cases n with
      | zero => exact hwrite (List.ne_nil_of_length_pos (by omega))
      | succ n =>
        have := hwrites n (by omega)
        rw [hexp.calls, Nat.add_assoc, Nat.add_comm 1 n] at this
        exact this

/-- All that is overdue has gone, with its HTLCs failed, and nothing else. -/
structure World.ClearedTo (env : Env) (w w' : World) : Prop where
  invoices : ∀ k, w'.holdInvoices.get? k
    = (w.holdInvoices.get? k).filter fun inv => ¬ inv.Overdue env
  said : ∃ said, w'.trace = said ++ w.trace ∧ ∀ inv ∈ w.overdue env,
    ∀ r ∈ acceptedRequests inv.incomingHtlcs.elems, Event.answer r (.fail "400F") ∈ said

theorem World.mem_overdue : inv ∈ w.overdue env ↔
    w.holdInvoices.get? (hex inv.paymentHash) = some inv ∧ inv.Overdue env := by
  unfold World.overdue
  rw [List.mem_filter, decide_eq_true_eq]
  refine and_congr_left fun _ => ⟨fun hmem => ?_, fun hget => ?_⟩
  · obtain ⟨p, hp, rfl⟩ := List.mem_map.mp hmem
    rw [HoldInvoices.hex_paymentHash (World.get?_of_item hp)]
    exact World.get?_of_item hp
  · exact List.mem_map_of_mem (f := Prod.snd) (Dict.mem_of_get? hget)

theorem World.ClearedTo.refl (h : w.overdue env = []) : World.ClearedTo env w w := by
  refine ⟨fun k => ?_, [], rfl, fun inv hinv => ?_⟩
  · cases hget : w.holdInvoices.get? k with
    | none => rfl
    | some inv =>
      have hnot : ¬ inv.Overdue env := by
        intro hinv
        have hmem : inv ∈ w.overdue env := by
          apply World.mem_overdue.mpr
          rw [HoldInvoices.hex_paymentHash hget]
          exact ⟨hget, hinv⟩
        rw [h] at hmem
        cases hmem
      exact (if_pos (decide_eq_true hnot)).symm
  · rw [h] at hinv
    cases hinv

theorem World.ClearedTo.of_expires {w₁ : World} {rest : List HoldInvoice}
    (h : w.overdue env = inv :: rest) (hexp : w.Removes inv w₁)
    (hrest : World.ClearedTo env w₁ w') : World.ClearedTo env w w' := by
  have hinv : inv ∈ w.overdue env := by
    rw [h]
    exact List.mem_cons_self
  obtain ⟨hget, hover⟩ := World.mem_overdue.mp hinv
  obtain ⟨said, htrace, hsaid⟩ := hrest.said
  refine ⟨fun k => ?_, said ++ ((acceptedRequests inv.incomingHtlcs.elems).map
    (Event.answer · (.fail "400F"))).reverse, ?_, fun inv' hinv' r hr => ?_⟩
  · rw [hrest.invoices, hexp.invoices, HoldInvoices.get?_pop]
    by_cases hk : k = hex inv.paymentHash
    · rw [if_pos hk, hk, hget]
      exact (if_neg (by simpa using hover)).symm
    · rw [if_neg hk]
  · rw [htrace, hexp.answers, List.append_assoc]
  · rw [h] at hinv'
    rcases List.mem_cons.mp hinv' with rfl | hinv'
    · exact List.mem_append_right _ (List.mem_reverse.mpr (List.mem_map_of_mem hr))
    · apply List.mem_append_left
      apply hsaid inv' _ r hr
      rw [hexp.overdue h]
      exact hinv'

/-- **The loop always comes to an end**, with everything that is overdue gone, or with an overdue
invoice it could not get rid of. -/
theorem expiryLoop_outcome (env : Env) (w : World) : ∃ w', ExpiryEnds env w w' ∧
    (Clears env w → World.ClearedTo env w w') ∧ (¬ Clears env w → ∃ k, w'.OverdueAt env k) := by
  induction hl : w.overdue env generalizing w with
  | nil =>
    exact ⟨w, .of_returns (expiryPass_idle hl), fun _ => .refl hl, fun hnot => absurd (.of_nil hl) hnot⟩
  | cons inv rest ih =>
    have hinv : inv ∈ w.overdue env := by
      rw [hl]
      exact List.mem_cons_self
    obtain ⟨hget, hover⟩ := World.mem_overdue.mp hinv
    by_cases hcan : w.CanExpire inv
    · obtain ⟨w₁, hexp, hturn⟩ := expiryTurn_expires hget hover hcan
      have hpass := expiryPass_raises hl hturn
      have hclears := clears_iff hl hexp
      have hleft := hexp.overdue hl
      cases hfails : env.writeFails w.db.calls with
      | true =>
        -- the invoice has gone, but the failed write ends the passes
        rw [hfails, if_pos rfl] at hpass
        refine ⟨w₁, .of_raises hpass rfl, fun h => ?_, fun h => ?_⟩
        · have hlast : rest = [] := by
            by_contra hne
            have := (hclears.mp h).2.1 hne
            rw [hfails] at this
            cases this
          exact .of_expires hl hexp (.refl (hleft.trans hlast))
        · cases rest with
          | nil =>
            exfalso
            apply h
            exact hclears.mpr ⟨hcan, fun hne => absurd rfl hne, .of_nil hleft⟩
          | cons next rest =>
            have hnext : next ∈ w₁.overdue env := by
              rw [hleft]
              exact List.mem_cons_self
            obtain ⟨hget', hover'⟩ := World.mem_overdue.mp hnext
            exact ⟨_, next, hget', hover'⟩
      | false =>
        rw [hfails, if_neg Bool.false_ne_true] at hpass
        obtain ⟨w', hends, hyes, hno⟩ := ih w₁ hleft
        refine ⟨w', .of_again hpass rfl hends, fun h => ?_, fun h => hno fun h' => h ?_⟩
        · exact .of_expires hl hexp (hyes (hclears.mp h).2.2)
        · exact hclears.mpr ⟨hcan, fun _ => hfails, h'⟩
    · obtain ⟨e, w', hturn, he, hstuck⟩ := expiryTurn_stuck hget hover hcan
      exact ⟨w', .of_raises (expiryPass_raises hl hturn) (decide_eq_false he),
        fun h => absurd (h.canExpire hl) hcan, fun _ => ⟨_, hstuck⟩⟩

/-- What has been cleared has been cleared exactly. -/
theorem World.ClearedTo.exact (h : World.ClearedTo env w w') (hclears : Clears env w) :
    ExpiresExactly env w w' := by
  -- an invoice that is gone was overdue
  have hgone : ∀ k inv, w.holdInvoices.get? k = some inv → w'.holdInvoices.get? k = none →
      inv ∈ w.overdue env := by
    intro k inv hget hnone
    apply World.mem_overdue.mpr
    rw [HoldInvoices.hex_paymentHash hget]
    refine ⟨hget, ?_⟩
    by_contra hnot
    rw [h.invoices, hget] at hnone
    rw [Option.filter_some, if_pos (decide_eq_true hnot)] at hnone
    cases hnone
  have hkept : ∀ k inv, w'.holdInvoices.get? k = some inv →
      w.holdInvoices.get? k = some inv ∧ ¬ inv.Overdue env := by
    intro k inv hget
    rw [h.invoices] at hget
    obtain ⟨hold, hnot⟩ := Option.filter_eq_some_iff.mp hget
    exact ⟨hold, of_decide_eq_true hnot⟩
  obtain ⟨said, htrace, hsaid⟩ := h.said
  refine ⟨fun k inv hget => (hkept k inv hget).2, fun k inv hget hnone => ?_,
    fun k inv p prepay hget hnone hp hprepay _ => ?_, fun k inv hget hnot _ => ?_,
    fun k inv hget => (hkept k inv hget).1⟩
  · refine ⟨said, htrace, fun a ha hacc => ?_⟩
    have hinv := hgone k inv hget hnone
    obtain ⟨r, hr, -⟩ := hclears.htlcs.opens a (List.mem_flatMap.mpr ⟨inv, hinv, ha⟩) hacc
    exact ⟨r, hr, hsaid inv hinv r (mem_acceptedRequests.mpr ⟨a, ha, hacc, hr⟩)⟩
  · obtain ⟨pre, post, hsplit⟩ := List.append_of_mem (hgone k inv hget hnone)
    have hstored : (w.getHoldInvoice p).isSome = true := by
      rw [hprepay]
      rfl
    obtain ⟨main, hmain, rfl⟩ := List.mem_map.mp (hclears.prepays pre inv post hsplit p hp hstored)
    have hmem : main ∈ w.overdue env := by
      rw [hsplit]
      exact List.mem_append_left _ hmain
    obtain ⟨hget', hover⟩ := World.mem_overdue.mp hmem
    show w'.holdInvoices.get? (hex main.paymentHash) = none
    rw [h.invoices, hget']
    simp [hover]
  · rw [h.invoices, hget]
    exact if_pos (decide_eq_true hnot)

/-- The passes are steps of the process, one after another. -/
theorem ExpiryEnds.steps [Deployment] (h : ExpiryEnds env w w') : ∃ n, (step (.expiry env))^[n] w = w' := by
  have hstep : step (.expiry env) = final (expiryPass env) := by
    funext s
    show final (monitorExpiries env) s = _
    rw [monitorExpiries_eq]
    cases hr : expiryPass env s with
    | ok a t => simp [final, tryCatch_ok hr, hr]
    | error e t =>
      have hcaught : tryCatch (expiryPass env) (fun _ => pure ()) s = .ok () t := tryCatch_error hr
      simp [final, hcaught, hr]
  rw [hstep]
  exact h.iterate

/-- **The expiry pass is complete and exact precisely when nothing stops it.** On every table of hold
invoices and at every time the passes between two sleeps come to an end; what they have done is what
they are there for exactly if `Clears`. -/
theorem expiryLoop_exact_iff (env : Env) (w : World) :
    ∃ w', ExpiryEnds env w w' ∧ (ExpiresExactly env w w' ↔ Clears env w) := by
  obtain ⟨w', hends, hyes, hno⟩ := expiryLoop_outcome env w
  refine ⟨w', hends, fun h => ?_, fun h => (hyes h).exact h⟩
  by_contra hnot
  obtain ⟨k, inv, hget, hover⟩ := hno hnot
  exact h.complete k inv hget hover

end

section Sample

open Sample

attribute [local instance] Sample.deployment

/-- The client of a swap of 50000 sat has paid the prepay invoice, and not the other one. -/
private def prepaidOnly : World :=
  runOf (boot ++ [.request env (createswap 50000), deliver 1 prepayHash 272000]) World.start

/-- An hour later. -/
private def hourLater : Env := { env with timeNs := env.timeNs + 3600 * 1000000000 }

/-- Then the invoice that has not been paid is never removed: the prepay invoice is in the way. -/
theorem expiryLoop_stuck_prepaid : ∃ env w, Reachable (fun _ _ => True) w ∧
    (∀ k inv, w.holdInvoices.get? k = some inv → ∀ h ∈ inv.incomingHtlcs, h.state = .accepted →
      w.Open h) ∧
    ∀ w', ExpiryEnds env w w' → ¬ ExpiresExactly env w w' := by
  refine ⟨hourLater, prepaidOnly, reachable_runOf _, fun k inv hget => ?_, fun w' hends h => ?_⟩
  · have hall : (prepaidOnly.holdInvoices.dict.items.all fun p => p.2.incomingHtlcs.elems.all fun h =>
        h.requestCallback.any fun r => ¬ prepaidOnly.Answered r) = true := by decide +kernel
    intro h hmem _
    have hopen := List.all_eq_true.mp (List.all_eq_true.mp hall _ (Dict.mem_of_get? hget)) h hmem
    rw [Option.any_eq_true] at hopen
    obtain ⟨r, hr, hnot⟩ := hopen
    exact ⟨r, hr, of_decide_eq_true hnot⟩
  · have hraises : raises (expiryPass hourLater) prepaidOnly = some .AttributeError := by
      decide +kernel
    rw [hends.unique (.of_raises (error_of_raises hraises) rfl)] at h
    have hstuck : ((final (expiryPass hourLater) prepaidOnly).holdInvoices.get? (hex paymentHash)).any
        (·.Overdue hourLater) = true := by decide +kernel
    rw [Option.any_eq_true] at hstuck
    obtain ⟨inv, hget, hover⟩ := hstuck
    exact h.complete _ inv hget (of_decide_eq_true hover)

end Sample

end SubswapProvider
