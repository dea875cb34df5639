import SubswapProvider.Expiring

/-!
# Only held HTLCs count as funding

An invoice is funded by the HTLCs its set counts as accepted. The hook puts an HTLC into the set
before it has been saved, and answers `continue` when anything raises: the HTLC is then given back
while it still counts. So a funding decision can rest on HTLCs the plugin no longer holds
(`funds_with_returned_htlc`). The expiry pass fails HTLCs first and deletes their invoice from the
datastore afterwards, or never, when it stumbles over the prepay invoice: a new process counts them again
(`funds_with_failed_htlc`).

`StepOk` asks for neither to happen, of the state before a step and of what lightningd and the datastore
answer. It says nothing of what a new process finds. That the HTLCs it finds as accepted are held is shown
to follow (`funding_counts_held`).
-/

namespace SubswapProvider

open Deployment Effect

/-- The expiry pass gets to fail an HTLC of the invoice: the first accepted one has a callback that takes
a result. -/
def World.FailsFirst (w : World) (inv : HoldInvoice) : Prop :=
  ∃ h, inv.incomingHtlcs.elems.find? (·.state = .accepted) = some h ∧ w.Open h

/-- What keeps accepted HTLCs held: hook calls as `HookOk` has them; an expiry pass that fails an HTLC
goes on to delete its invoice, and the write goes through; and a process that ends in the middle of a step
does not end between the failure and the write. -/
def StepOk [Deployment] (target : HtlcKey → Option Bytes) (w : World) : Action → Prop
  | .htlc env forward payment_secret request => HookOk target env forward payment_secret request w
  | .expiry env => ∀ inv rest, w.overdue env = inv :: rest → w.FailsFirst inv →
      w.CanExpire inv ∧ env.writeFails w.db.calls = false
  | .crash _ n => ∀ v, w.views[n]? = some v → v.FailuresSaved
  | _ => True

section

variable {tracked durable : Prop} {target : HtlcKey → Option Bytes} {env : Env} {w : World} {k : Hex}
  {inv : HoldInvoice}

/-! ## A pass that fails nothing -/

/-- The loop over the HTLCs is stopped by the first accepted one. -/
theorem sound_failNone (hw : Sound tracked durable target w) (hget : w.holdInvoices.get? k = some inv)
    (hstatus : inv.fundingStatus ≠ .funded) (l : List Htlc)
    (hnone : ∀ h, l.find? (·.state = .accepted) = some h → ¬ w.Open h) :
    Triple (· = w) (l.forM fun h => if h.state = .accepted then failHtlc k h else pure ())
      (fun _ s => s = w) (fun _ => Sound tracked durable target) := by
  induction l with
  | nil => exact Triple.pure fun _ hs => hs
  | cons a l ih =>
    show Triple (· = w) ((if a.state = .accepted then failHtlc k a else pure ()) >>= fun _ =>
      l.forM fun h => if h.state = .accepted then failHtlc k h else pure ()) _ _
    by_cases hacc : a.state = .accepted
    · have hclosed : ¬ w.Open a := hnone a (by simp [hacc])
      rw [if_pos hacc]
      refine Triple.bind (R := fun _ _ => False) ?_ fun _ _ hs => hs.elim
      unfold failHtlc resolveHtlc
      rw [if_pos hacc]
      split
      · exact Triple.throw fun s hs => hs ▸ hw
      · next request hrequest =>
        have hanswered : w.Answered request := by
          by_contra hopen
          exact hclosed ⟨request, hrequest, hopen⟩
        refine Triple.modifyBind (R := fun s => Sound tracked durable target s ∧ s.Answered request)
          (fun s hs => ?_) ?_
        · subst hs
          refine ⟨hw.mutHoldInvoice (fun inv' hinv' => ?_) fun _ inv' _ κ hκ =>
            .inl (hκ.of_setHtlcState (by decide)).1, hanswered⟩
          rw [hget] at hinv'
          cases hinv'
          exact (hw.invoices.live k inv hget).cancel hstatus a.key
        · -- the request has been answered, so it is refused
          refine Triple.getBind fun s hs => ?_
          rw [if_pos hs.2]
          refine Triple.modifyBind (R := Sound tracked durable target) (fun t ht => ?_)
            (Triple.throw fun _ ht => ht)
          exact (ht ▸ hs.1).emitSilent (silent_refused _ _)
    · rw [if_neg hacc, pure_bind]
      exact ih fun h hfind => hnone h (by simpa [hacc] using hfind)

/-- The turn of an invoice no HTLC of which is failed keeps what is saved, too. -/
theorem sound_idleTurn (hw : Sound tracked durable target w) (hget : w.holdInvoices.get? k = some inv)
    (hinv : inv.Overdue env) (hnone : ¬ w.FailsFirst inv) :
    Triple (· = w) (expiryTurn env k) (fun _ => Sound tracked durable target)
      (fun _ => Sound tracked durable target) := by
  have hk : hex inv.paymentHash = k := HoldInvoices.hex_paymentHash hget
  refine Triple.getBind fun s hs => ?_
  rw [hs, hget, checkInvoiceExpiry_overdue hinv]
  have hfail := sound_failNone hw hget hinv.2.1 inv.incomingHtlcs.elems
    fun h hfind hopen => hnone ⟨h, hfind, hopen⟩
  have hcancel : Triple (· = w) (cancelAllHtlcs inv) (fun _ => Sound tracked durable target)
      (fun _ => Sound tracked durable target) := by
    unfold cancelAllHtlcs forAccepted
    rw [hk]
    refine Triple.bind hfail fun _ => Triple.modify fun t ht => ?_
    subst ht
    exact hw.mutHoldInvoice (fun inv' hinv' => (hw.invoices.live k inv' hinv').setFundingStatus nofun)
      fun _ inv' _ κ hκ => .inl hκ
  refine Triple.bind (Triple.bind hcancel fun _ => Keeps.get fun _ =>
    Keeps.bind (Keeps.ite Keeps.throw Keeps.pure) fun _ =>
    Keeps.bind (sound_deleteHoldInvoice env _ true) fun _ => Keeps.pure) fun _ => ?_
  exact Keeps.ite Keeps.throw Keeps.pure

/-! ## A pass that fails HTLCs -/

/-- Since `w` HTLCs have been failed, and nothing else has been said or saved. -/
structure World.OnlyFailed (w s : World) : Prop where
  db : s.db = w.db
  said : s.trace.dropWhile Event.fails = w.trace.dropWhile Event.fails
  views : ∀ v ∈ s.views, v ∈ w.views ∨
    (v.db = w.db ∧ v.said.dropWhile Event.fails = w.trace.dropWhile Event.fails)

theorem onlyFailed_cancelAllHtlcs (w : World) (inv : HoldInvoice) :
    Triple w.OnlyFailed (cancelAllHtlcs inv) (fun _ => w.OnlyFailed) (fun _ _ => True) := by
  have hfail : ∀ h, Triple w.OnlyFailed (failHtlc (hex inv.paymentHash) h)
      (fun _ => w.OnlyFailed) (fun _ _ => True) := by
    intro h
    unfold failHtlc resolveHtlc
    split
    · split
      · exact Triple.throw fun _ _ => trivial
      · refine Triple.modifyBind (R := w.OnlyFailed) (fun s hs => ⟨hs.db, hs.said, hs.views⟩) ?_
        refine Triple.getBind fun s hs => ?_
        split
        · exact Triple.modifyBind (R := fun _ => True) (fun _ _ => trivial)
            (Triple.throw fun _ _ => trivial)
        · refine Triple.modify fun t ht => ?_
          subst ht
          refine ⟨hs.db, hs.said, fun v hv => ?_⟩
          rcases List.mem_cons.mp hv with rfl | hv
          · exact .inr ⟨hs.db, hs.said⟩
          · exact hs.views v hv
    · exact Triple.throw fun _ _ => trivial
  unfold cancelAllHtlcs forAccepted
  refine Triple.bind (Triple.forM fun h _ => ?_) fun _ =>
    Triple.modify fun s hs => ⟨hs.db, hs.said, hs.views⟩
  split
  · exact hfail h
  · exact Triple.pure fun _ hs => hs

/-- A write that goes through stores what was queued, or the tables. -/
theorem World.written_stores {u : World} (hwrites : u.db.writes env = true) :
    (∀ d, (u.written env).Stores d → u.db.queued = some d ∨ d.holdInvoices = u.holdInvoices.stored) ∧
      ∀ v ∈ (u.written env).views, v ∈ u.views ∨ (v.db = (u.written env).db ∧ v.said = u.trace) := by
  unfold World.written
  rw [if_pos hwrites]
  split
  · refine ⟨fun d hd => .inr ?_, fun v hv => ?_⟩
    · rcases hd with hd | hd
      · cases hd; rfl
      · cases hd; rfl
    · rcases List.mem_cons.mp hv with rfl | hv
      · exact .inr ⟨rfl, rfl⟩
      · exact .inl hv
  · refine ⟨fun d hd => .inl ?_, fun v hv => ?_⟩
    · rcases hd with hd | hd
      · exact hd
      · exact hd
    · rcases List.mem_cons.mp hv with rfl | hv
      · exact .inr ⟨rfl, rfl⟩
      · exact .inl hv

/-- What the drop queues for the next write. -/
theorem World.queued_dropHoldInvoice (hstored : (w.holdInvoices.get? k).isSome = true) {d : Doc}
    (hd : (w.dropHoldInvoice k).db.queued = some d) :
    ∃ d₀, w.db.queued = some d₀ ∧ d.holdInvoices = d₀.holdInvoices.pop k := by
  unfold World.dropHoldInvoice World.popHoldInvoice at hd
  rw [if_pos hstored] at hd
  obtain ⟨d₀, hd₀, hpatch⟩ := Option.bind_eq_some_iff.mp hd
  refine ⟨d₀, hd₀, ?_⟩
  split at hpatch
  · cases hpatch
    rfl
  · cases hpatch

/-- The HTLCs that have been failed are those of the invoice. -/
theorem World.AnswersAll.givenBack {s : World}
    (h : w.AnswersAll s (acceptedRequests inv.incomingHtlcs.elems) (.fail "400F"))
    (hok : InvoiceOk tracked target inv) (ht : tracked) {κ : HtlcKey} (hback : GivenBack s.trace κ) :
    GivenBack w.trace κ ∨ target κ = some inv.paymentHash := by
  obtain ⟨e, he, hgives⟩ := hback
  rw [h, List.mem_append, List.mem_reverse] at he
  rcases he with he | he
  · obtain ⟨request, hrequest, rfl⟩ := List.mem_map.mp he
    obtain ⟨a, ha, -, hcallback⟩ := mem_acceptedRequests.mp hrequest
    have hkey : request.htlc.key = κ := hgives
    refine .inr ?_
    rw [← hkey, hok.callbacks a ha request hcallback]
    exact hok.members ht a ha
  · exact .inl ⟨e, he, hgives⟩

theorem Sound.weaken (h : Sound tracked durable target w) : Sound tracked False target w :=
  ⟨h.invoices, h.held, h.log, h.views, fun _ => False.elim, fun _ => False.elim⟩

/-- No other stored invoice has the HTLCs that have been failed: an HTLC is for the one invoice that
lightningd says. -/
theorem Sound.without_pop (hw : Sound tracked durable target w) (ht : tracked) (hd : durable)
    (hget : w.holdInvoices.get? k = some inv) {s : World}
    (hall : w.AnswersAll s (acceptedRequests inv.incomingHtlcs.elems) (.fail "400F")) {d : Doc}
    (hdoc : w.Stores d) : (d.holdInvoices.pop k).Without (GivenBack s.trace) := by
  intro k' inv' hinv' κ hκ hback
  rw [HoldInvoices.get?_pop] at hinv'
  split at hinv'
  · cases hinv'
  · next hne =>
    rcases hall.givenBack (hw.invoices.live k inv hget) ht hback with hbefore | htarget
    · exact (hw.saved ht hd).saved d hdoc k' inv' hinv' κ hκ hbefore
    · obtain ⟨a, ha, -, rfl⟩ := hκ
      have hok := hw.invoices.stored _ (.inl (.inl ⟨d, hdoc, rfl⟩)) k' inv' hinv'
      have hsame := (hok.members ht a ha).symm.trans htarget
      refine hne ?_
      rw [← HoldInvoices.hex_paymentHash hinv', ← HoldInvoices.hex_paymentHash hget,
        Option.some_inj.mp hsame]

/-- **The turn of an invoice whose HTLCs are failed** keeps what is saved, if the write goes through: the
invoice is gone from the datastore, and no other one has these HTLCs. -/
theorem sound_failingTurn (hw : Sound tracked durable target w)
    (hget : w.holdInvoices.get? k = some inv) (hinv : inv.Overdue env) (hcan : w.CanExpire inv)
    (hwrite : env.writeFails w.db.calls = false) :
    ∃ w', expiryTurn env k w = .error .RestartLoop w' ∧ Sound tracked durable target w' := by
  obtain ⟨s, hcancel, hall, hwithin, hcheck⟩ := checkInvoiceExpiry_deletes hget hinv hcan
  have hstored : (s.holdInvoices.get? k).isSome = true := by
    rw [hwithin.stored, hget]
    rfl
  obtain ⟨-, hsaid, hframe, -, hwrites⟩ := World.dropHoldInvoice_frame env hstored
  let w' := (s.dropHoldInvoice k).written env
  have hrun : checkInvoiceExpiry env (w.holdInvoices.get? k) w = .ok true w' := by
    have hdelete : deleteHoldInvoice env k true s = .ok ⟨⟩ w' := by
      rw [deleteHoldInvoice_eq env hstored, hwithin.db, hwrite]
      exact if_neg Bool.false_ne_true
    rw [hget, hcheck]
    exact bind_ok hdelete
  obtain ⟨db, views, hwrote, -⟩ := World.wrote_written env (s.dropHoldInvoice k)
  have htrace : w'.trace = s.trace := by
    show ((s.dropHoldInvoice k).written env).trace = s.trace
    rw [hwrote]
    exact hsaid
  have hholds : w'.holdInvoices = (s.dropHoldInvoice k).holdInvoices := by
    show ((s.dropHoldInvoice k).written env).holdInvoices = _
    rw [hwrote]
    rfl
  have hbooks : Sound tracked False target w' := by
    have hturn := sound_checkInvoiceExpiry env k hw.weaken w rfl
    rw [hrun] at hturn
    exact hturn
  obtain ⟨hstores, hviews⟩ := World.written_stores hwrites
  have hfailed : w.OnlyFailed s := by
    have hcancelled := onlyFailed_cancelAllHtlcs w inv w ⟨rfl, rfl, fun _ hv => .inl hv⟩
    rw [hcancel] at hcancelled
    exact hcancelled
  have hsaved : tracked → durable → w'.Without (GivenBack w'.trace) := by
    intro ht hd
    refine ⟨hbooks.held ht, fun d hdoc => ?_⟩
    rcases hstores d hdoc with hqueued | hlive
    · obtain ⟨d₀, hd₀, hpop⟩ := World.queued_dropHoldInvoice hstored hqueued
      rw [hwithin.db] at hd₀
      rw [hpop, htrace]
      exact hw.without_pop ht hd hget hall (.inr hd₀)
    · rw [hlive, ← hholds]
      exact (hbooks.held ht).stored
  refine ⟨w', bind_ok hrun, hbooks.invoices, hbooks.held, hbooks.log, hbooks.views, hsaved,
    fun ht hd v hv d hdisk => ?_⟩
  rcases hviews v hv with hv | ⟨hdb, hvsaid⟩
  · rw [hframe] at hv
    rcases hfailed.views v hv with hv | ⟨hdb, hvsaid⟩
    · exact hw.points ht hd v hv d hdisk
    · rw [hvsaid]
      rw [hdb] at hdisk
      exact ((hw.saved ht hd).saved d (.inl hdisk)).dropWhile
  · have hlast : v.said = w'.trace := hvsaid.trans (hsaid.trans htrace.symm)
    rw [hlast]
    exact ((hsaved ht hd).saved d (.inl (hdb ▸ hdisk))).dropWhile

/-! ## Steps and runs -/

/-- **The expiry pass keeps what is saved** under its condition. -/
theorem sound_expiry [Deployment] (hw : Sound tracked durable target w)
    (hok : ∀ inv rest, w.overdue env = inv :: rest → w.FailsFirst inv →
      w.CanExpire inv ∧ env.writeFails w.db.calls = false) :
    Sound tracked durable target (step (.expiry env) w) := by
  have hfinal : ∀ {w'}, (expiryPass env w = .ok ⟨⟩ w' ∨ ∃ e, expiryPass env w = .error e w') →
      step (.expiry env) w = w' := by
    intro w' hpass
    show final (tryCatch (expiryPass env) fun _ => pure ()) w = w'
    unfold final
    rcases hpass with hpass | ⟨e, hpass⟩
    · rw [tryCatch_ok hpass]
    · rw [tryCatch_error hpass]
      rfl
  cases hover : w.overdue env with
  | nil =>
    rw [hfinal (.inl (expiryPass_idle hover))]
    exact hw
  | cons inv rest =>
    obtain ⟨pre, post, hitems, -, hinv, -⟩ := World.items_of_overdue hover
    have hget : w.holdInvoices.get? (hex inv.paymentHash) = some inv := by
      apply World.get?_of_item (p := (hex inv.paymentHash, inv))
      rw [hitems]
      exact List.mem_append_right _ List.mem_cons_self
    by_cases hfails : w.FailsFirst inv
    · obtain ⟨hcan, hwrite⟩ := hok inv rest hover hfails
      obtain ⟨w', hturn, hw'⟩ := sound_failingTurn hw hget hinv hcan hwrite
      rw [hfinal (.inr ⟨_, expiryPass_raises hover hturn⟩)]
      exact hw'
    · have hturn := sound_idleTurn hw hget hinv hfails w rfl
      by_cases hcan : w.CanExpire inv
      · obtain ⟨w', -, hrun⟩ := expiryTurn_expires hget hinv hcan
        rw [hrun] at hturn
        rw [hfinal (.inr ⟨_, expiryPass_raises hover hrun⟩)]
        exact hturn
      · obtain ⟨e, w', hrun, -⟩ := expiryTurn_stuck hget hinv hcan
        rw [hrun] at hturn
        rw [hfinal (.inr ⟨_, expiryPass_raises hover hrun⟩)]
        exact hturn

theorem StepOk.keeps [Deployment] {a : Action} (hok : StepOk target w a)
    (hw : Sound True True target w) : StepKeeps True True target w a where
  htlc _ env forward payment_secret request ha := by
    subst ha
    exact hok
  expiry env ha := by
    subst ha
    exact sound_expiry hw hok
  crash _ env n v ha := by
    subst ha
    exact hok v

end

/-- **Every funding decision rests on held HTLCs**, in every run whose steps are `StepOk`. -/
theorem funding_counts_held [Deployment] (target : HtlcKey → Option Bytes) (w : World)
    (h : Reachable (StepOk target) w) (post pre : List Event) (e : Event) (inv : HoldInvoice)
    (hlog : w.trace = post ++ e :: pre) (he : e = .funded inv ∨ e = .invokeCallback inv) :
    CountsHeld pre inv := by
  have hsound : Sound True True target w := by
    refine Run.invariant (I := Sound True True target) (fun w a hok hs => ?_) h sound_start
    exact sound_step id (hok.keeps hs) hs
  exact (hsound.log trivial).at hlog he

section Sample

open Sample

attribute [local instance] Sample.deployment

/-- The client has paid the main invoice with two HTLCs. -/
def paidInTwo (first : Env) : World :=
  runOf (boot ++ [.request Sample.env (createswap 50000),
    .htlc first false (some (List.replicate 32 6)) (htlcFor 1 paymentHash 10000000),
    deliver 2 paymentHash 39728000]) World.start

/-- The datastore does not have the HTLC as accepted. -/
def nowhereAccepted (w : World) (κ : HtlcKey) : Bool :=
  [w.db.disk, w.db.queued].all fun d => d.all fun d => d.holdInvoices.dict.items.all fun p =>
    p.2.incomingHtlcs.elems.all fun h => h.state ≠ .accepted ∨ h.key ≠ κ

theorem without_of_nowhereAccepted {w : World} {κ : HtlcKey} (h : nowhereAccepted w κ = true) (d : Doc)
    (hd : w.Stores d) : d.holdInvoices.Without (· = κ) := by
  rintro k inv hinv _ ⟨a, ha, hacc, rfl⟩ rfl
  have hmem : some d ∈ [w.db.disk, w.db.queued] := by
    rcases hd with hd | hd
    · simp [hd]
    · simp [hd]
  have hdoc := List.all_eq_true.mp h _ hmem
  have hitem := List.all_eq_true.mp hdoc _ (Dict.mem_of_get? hinv)
  rcases of_decide_eq_true (List.all_eq_true.mp hitem a ha) with hne | hne
  · exact hne hacc
  · exact hne rfl

/-- A hook call of the client in these surroundings is as lightningd has to make it. -/
theorem hookOk_deliver (w : World) (n amount_msat : Nat) (hlog : w.trace = [])
    (hnew : nowhereAccepted w (htlcFor n paymentHash amount_msat).htlc.key = true) :
    HookOk (fun _ => some paymentHash) Sample.env false (some (List.replicate 32 6))
      (htlcFor n paymentHash amount_msat) w where
  target := rfl
  fresh h := by
    obtain ⟨e, he, -⟩ := h
    rw [hlog] at he
    cases he
  saved _ invoice _ _ := by
    cases hresult : checkHtlc Sample.env invoice (some (List.replicate 32 6))
        (htlcFor n paymentHash amount_msat).htlc with
    | ok accepted => exact ⟨accepted, rfl, fun _ => rfl⟩
    | error e =>
      dsimp only [checkHtlc, Sample.env] at hresult
      repeat (split at hresult; · cases hresult)
      cases hresult
  unknown _ _ := without_of_nowhereAccepted hnew

/-- An invoice paid in two HTLCs that are both saved is funded by what is held. -/
theorem funding_counts_held_paid :
    ∃ inv, (paidInTwo Sample.env).trace = [.funded inv] ∧ CountsHeld [] inv := by
  have hfunded : ((paidInTwo Sample.env).getHoldInvoice paymentHash).any
      (fun inv => (paidInTwo Sample.env).trace = [.funded inv]) = true := by decide +kernel
  obtain ⟨inv, -, hinv⟩ := (Option.any_eq_true _ _).mp hfunded
  have htrace : (paidInTwo Sample.env).trace = [.funded inv] := of_decide_eq_true hinv
  refine ⟨inv, htrace, funding_counts_held (fun _ => some paymentHash) _ ?_ [] [] _ inv htrace
    (.inl rfl)⟩
  refine reachable_of_allowedRun ⟨trivial, trivial, trivial, trivial, ?_, ?_, trivial⟩
  · exact hookOk_deliver _ 1 10000000 (by decide +kernel) (by decide +kernel)
  · exact hookOk_deliver _ 2 39728000 (by decide +kernel) (by decide +kernel)

/-- When the datastore does not take the first HTLC, it is given back, and counts all the same. -/
theorem funds_with_returned_htlc :
    ∃ w post pre inv, Reachable (fun _ _ => True) w ∧ w.trace = post ++ .funded inv :: pre ∧
      ¬ CountsHeld pre inv := by
  let w : World := paidInTwo { Sample.env with writeFails := fun _ => true }
  have hfunded : (w.getHoldInvoice paymentHash).any (fun inv => w.trace = [.funded inv,
      .answer (htlcFor 1 paymentHash 10000000) .continue_] ∧
      inv.incomingHtlcs.elems.any (fun h => h.state = .accepted ∧
        h.key = (htlcFor 1 paymentHash 10000000).htlc.key)) = true := by decide +kernel
  obtain ⟨inv, -, hinv⟩ := (Option.any_eq_true _ _).mp hfunded
  obtain ⟨htrace, hcounted⟩ := of_decide_eq_true hinv
  obtain ⟨h, hmem, hh⟩ := List.any_eq_true.mp hcounted
  obtain ⟨hacc, hkey⟩ := of_decide_eq_true hh
  refine ⟨w, [], _, inv, reachable_runOf _, htrace, fun hcounts => ?_⟩
  exact hcounts.held _ ⟨h, hmem, hacc, hkey⟩ ⟨_, List.mem_singleton_self _, rfl⟩

/-- The client has paid the prepay invoice and a part of the main one when this expires, and pays the rest
after the plugin has been restarted. -/
def paidAfterExpiry : World :=
  runOf (boot ++ [.request Sample.env (createswap 50000), deliver 1 paymentHash 10000000,
    deliver 2 prepayHash 272000,
    .expiry { Sample.env with timeNs := Sample.env.timeNs + 3600 * 1000000000 }, .reload Sample.env,
    .initSwapManager, .mainLoop, deliver 3 paymentHash 39728000]) World.start

/-- No write has to fail. The expiry pass fails the first HTLC and stumbles over the prepay invoice; the
datastore still has the HTLC as accepted, and a new process counts it. -/
theorem funds_with_failed_htlc :
    ∃ w post pre inv, Reachable (fun _ _ => True) w ∧ w.trace = post ++ .funded inv :: pre ∧
      ¬ CountsHeld pre inv := by
  have hfunded : (paidAfterExpiry.getHoldInvoice paymentHash).any (fun inv =>
      paidAfterExpiry.trace.take 2 = [.funded inv,
        .answer (htlcFor 1 paymentHash 10000000) (.fail "400F")] ∧
      inv.incomingHtlcs.elems.any (fun h => h.state = .accepted ∧
        h.key = (htlcFor 1 paymentHash 10000000).htlc.key)) = true := by decide +kernel
  obtain ⟨inv, -, hinv⟩ := (Option.any_eq_true _ _).mp hfunded
  obtain ⟨htrace, hcounted⟩ := of_decide_eq_true hinv
  obtain ⟨h, hmem, hh⟩ := List.any_eq_true.mp hcounted
  obtain ⟨hacc, hkey⟩ := of_decide_eq_true hh
  have hsplit : paidAfterExpiry.trace = .funded inv ::
      .answer (htlcFor 1 paymentHash 10000000) (.fail "400F") :: paidAfterExpiry.trace.drop 2 := by
    have htake := List.take_append_drop 2 paidAfterExpiry.trace
    rw [htrace] at htake
    exact htake.symm
  refine ⟨paidAfterExpiry, [], _, inv, reachable_runOf _, hsplit, fun hcounts => ?_⟩
  exact hcounts.held _ ⟨h, hmem, hacc, hkey⟩ ⟨_, List.mem_cons_self, rfl⟩

end Sample

end SubswapProvider
