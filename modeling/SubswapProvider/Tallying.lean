import SubswapProvider.Hook
import SubswapProvider.Settling

/-!
# Status and HTLCs of a hold invoice

The status of a hold invoice sums up its HTLCs. Five operations change the one and the other, and two
of them answer the HTLCs one after another with the status last: an HTLC without a callback stops
them in between. For `settle` that is harmless, an HTLC counts whether it is accepted or settled.
`cancel_all_htlcs` of a funded invoice takes HTLCs away and leaves the status `FUNDED`
(`cancel_leaves_funded`). In every run in which it takes no more than the invoice has over its amount
the status is right (`status_matches_htlcs`).
-/

namespace SubswapProvider

open Deployment Effect

/-! ## Sums over a list -/

/-- The millisatoshis of the HTLCs of a list that satisfy `p`. -/
def msatOf (p : Htlc → Bool) (l : List Htlc) : Nat := ((l.filter p).map (·.amountMsat)).sum

section

variable {p q : Htlc → Bool} {l : List Htlc}

@[simp] theorem msatOf_nil : msatOf p [] = 0 := rfl

theorem msatOf_cons (p : Htlc → Bool) (h : Htlc) (l : List Htlc) :
    msatOf p (h :: l) = (if p h then h.amountMsat else 0) + msatOf p l := by
  unfold msatOf
  rw [List.filter_cons]
  split
  · rw [List.map_cons, List.sum_cons]
  · rw [Nat.zero_add]

theorem msatOf_append (p : Htlc → Bool) (l l' : List Htlc) :
    msatOf p (l ++ l') = msatOf p l + msatOf p l' := by
  unfold msatOf
  rw [List.filter_append, List.map_append, List.sum_append]

end

/-! ## The loop over the accepted HTLCs -/

instance (w : World) (h : Htlc) : Decidable (w.Open h) :=
  decidable_of_iff ((h.requestCallback.any fun request => !decide (w.Answered request)) = true) (by
    unfold World.Open
    cases h.requestCallback <;> simp)

namespace World

variable (w : World) (st : HtlcState)

/-- What the loop of `settle` and of `cancel_all_htlcs` leaves of the HTLCs, also when it raises. -/
def resolved : List Htlc → List Htlc
  | [] => []
  | h :: l =>
    if h.state ≠ .accepted then h :: resolved l
    else if w.Open h then { h with state := st } :: resolved l
    -- the assertion stands before the change of the state, `set_result` behind it
    else if h.requestCallback = none then h :: l
    else { h with state := st } :: l

/-- The millisatoshis `cancel_all_htlcs` takes from an invoice before it is done or stopped. -/
def takenAway : List Htlc → Nat
  | [] => 0
  | h :: l =>
    if h.state ≠ .accepted then takenAway l
    else if w.Open h then h.amountMsat + takenAway l
    else if h.requestCallback = none then 0
    else h.amountMsat

variable {w st} {l : List Htlc}

/-- Each accepted HTLC of the list can be answered. -/
def AllOpen (w : World) (l : List Htlc) : Prop := ∀ h ∈ l, h.state = .accepted → w.Open h

theorem resolved_congr {w' : World} (h : ∀ a ∈ l, (w'.Open a ↔ w.Open a)) :
    w'.resolved st l = w.resolved st l := by
  induction l with
  | nil => rfl
  | cons a l ih =>
    have ha := h a List.mem_cons_self
    have ih := ih fun b hb => h b (List.mem_cons_of_mem a hb)
    unfold resolved
    rw [ih]
    simp only [ha]

/-- Each HTLC is left with the callback it had. -/
theorem mem_resolved {a : Htlc} (h : a ∈ w.resolved st l) :
    ∃ b ∈ l, b.key = a.key ∧ b.requestCallback = a.requestCallback := by
  induction l with
  | nil => cases h
  | cons b l ih =>
    have htail : ∀ {c}, a ∈ c :: w.resolved st l → c.key = b.key →
        c.requestCallback = b.requestCallback →
        ∃ b' ∈ b :: l, b'.key = a.key ∧ b'.requestCallback = a.requestCallback := by
      intro c hc hkey hcallback
      rcases List.mem_cons.mp hc with rfl | hc
      · exact ⟨b, List.mem_cons_self, hkey.symm, hcallback.symm⟩
      · obtain ⟨b', hb', heq⟩ := ih hc
        exact ⟨b', List.mem_cons_of_mem b hb', heq⟩
    have hstop : ∀ {c}, a ∈ c :: l → c.key = b.key → c.requestCallback = b.requestCallback →
        ∃ b' ∈ b :: l, b'.key = a.key ∧ b'.requestCallback = a.requestCallback := by
      intro c hc hkey hcallback
      rcases List.mem_cons.mp hc with rfl | hc
      · exact ⟨b, List.mem_cons_self, hkey.symm, hcallback.symm⟩
      · exact ⟨a, List.mem_cons_of_mem b hc, rfl, rfl⟩
    unfold resolved at h
    split at h
    · exact htail h rfl rfl
    · split at h
      · exact htail h rfl rfl
      · split at h
        · exact hstop h rfl rfl
        · exact hstop h rfl rfl

/-- A loop that is not stopped leaves no HTLC accepted. -/
theorem not_accepted_of_allOpen (h : w.AllOpen l) (hst : st ≠ .accepted) :
    ∀ a ∈ w.resolved st l, a.state ≠ .accepted := by
  induction l with
  | nil => exact fun a ha => absurd ha List.not_mem_nil
  | cons b l ih =>
    have ih := ih fun a ha => h a (List.mem_cons_of_mem b ha)
    intro a ha
    unfold resolved at ha
    split at ha
    · next hacc =>
      rcases List.mem_cons.mp ha with rfl | ha
      · exact hacc
      · exact ih a ha
    · next hacc =>
      rw [if_pos (h b List.mem_cons_self (not_not.mp hacc))] at ha
      rcases List.mem_cons.mp ha with rfl | ha
      · exact hst
      · exact ih a ha

/-- Without an accepted HTLC there is nothing to do. -/
theorem resolved_of_none (h : ∀ a ∈ l, a.state ≠ .accepted) : w.resolved st l = l := by
  induction l with
  | nil => rfl
  | cons a l ih =>
    unfold resolved
    rw [if_pos (h a List.mem_cons_self), ih fun b hb => h b (List.mem_cons_of_mem a hb)]

/-- An HTLC counts whether it is accepted or settled. -/
theorem counted_resolved_settled (w : World) (l : List Htlc) :
    msatOf Htlc.counted (w.resolved .settled l) = msatOf Htlc.counted l := by
  induction l with
  | nil => rfl
  | cons a l ih =>
    unfold resolved
    split
    · rw [msatOf_cons, msatOf_cons, ih]
    · next hacc =>
      have hcounted : ∀ st, st = HtlcState.settled →
          Htlc.counted { a with state := st } = a.counted := by
        rintro st rfl
        simp [Htlc.counted, not_not.mp hacc]
      split
      · rw [msatOf_cons, msatOf_cons, ih, hcounted _ rfl]
      · split
        · rfl
        · rw [msatOf_cons, msatOf_cons, hcounted _ rfl]

/-- What cancelling leaves and what it takes away is what there was. -/
theorem counted_resolved_cancelled (w : World) (l : List Htlc) :
    msatOf Htlc.counted (w.resolved .cancelled l) + w.takenAway l = msatOf Htlc.counted l := by
  induction l with
  | nil => rfl
  | cons a l ih =>
    unfold resolved takenAway
    split
    · rw [msatOf_cons, msatOf_cons, ← ih]
      omega
    · next hacc =>
      have hcounted : a.counted = true := by simp [Htlc.counted, not_not.mp hacc]
      have hgone : Htlc.counted { a with state := .cancelled } = false := by simp [Htlc.counted]
      split
      · rw [msatOf_cons, msatOf_cons, hcounted, hgone, ← ih, if_pos rfl, if_neg (by simp)]
        show 0 + _ + (a.amountMsat + _) = _
        omega
      · split
        · rfl
        · rw [msatOf_cons, msatOf_cons, hcounted, hgone, if_pos rfl, if_neg (by simp)]
          omega

end World

/-- The invoice under `k` is `inv` but for its HTLCs, which are `l`. -/
def World.HasHtlcs (w : World) (k : Hex) (inv : HoldInvoice) (l : List Htlc) : Prop :=
  ∃ h, w.holdInvoices.get? k = some { inv with incomingHtlcs := ⟨l, h⟩ }

section

variable {k : Hex} {inv : HoldInvoice} {w : World} {st : HtlcState} {res : HookResult}

theorem World.HasHtlcs.answered {l : List Htlc} (hw : w.HasHtlcs k inv l) (request : Request) :
    (w.answered request res).HasHtlcs k inv l := by
  obtain ⟨hl, hget⟩ := hw
  refine ⟨hl, ?_⟩
  rw [World.answered_holdInvoices]
  exact hget

theorem World.HasHtlcs.setFundingStatus {l : List Htlc} {status : InvoiceState}
    (hw : w.HasHtlcs k inv l) :
    (w.mutHoldInvoice k (·.setFundingStatus status) fun _ => rfl).HasHtlcs k
      (inv.setFundingStatus status) l := by
  obtain ⟨hl, hget⟩ := hw
  refine ⟨hl, ?_⟩
  apply (World.get?_mutHoldInvoice _).trans
  rw [if_pos rfl, hget]
  rfl

/-- An assignment to the state of one HTLC changes that HTLC of the list. -/
theorem World.HasHtlcs.setHtlcState {h : Htlc} {done l : List Htlc}
    (hw : w.HasHtlcs k inv (done ++ h :: l)) :
    (w.mutHoldInvoice k (·.setHtlcState h.key st) fun _ => rfl).HasHtlcs k inv
      (done ++ { h with state := st } :: l) := by
  obtain ⟨hnodup, hget⟩ := hw
  have hkeys : (done ++ { h with state := st } :: l).map Htlc.key = (done ++ h :: l).map Htlc.key := by
    rw [List.map_append, List.map_append]
    rfl
  have hne : ∀ a, a ∈ done ∨ a ∈ l → a.key ≠ h.key := by
    rw [List.map_append, List.map_cons, List.nodup_append, List.nodup_cons] at hnodup
    obtain ⟨-, ⟨hl, -⟩, hdone⟩ := hnodup
    intro a ha heq
    rcases ha with ha | ha
    · exact hdone _ (List.mem_map_of_mem ha) _ List.mem_cons_self heq
    · exact hl (heq ▸ List.mem_map_of_mem ha)
  have hsame : ∀ m : List Htlc, (∀ a ∈ m, a.key ≠ h.key) →
      m.map (fun a => if a.key = h.key then { a with state := st } else a) = m := by
    intro m hm
    calc m.map (fun a => if a.key = h.key then { a with state := st } else a)
        = m.map id := List.map_congr_left fun a ha => if_neg (hm a ha)
      _ = m := List.map_id m
  refine ⟨hkeys ▸ hnodup, ?_⟩
  apply (World.get?_mutHoldInvoice _).trans
  rw [if_pos rfl, hget]
  refine congrArg some (congrArg (fun s => { inv with incomingHtlcs := s }) (HtlcSet.ext ?_))
  show (done ++ h :: l).map (fun a => if a.key = h.key then { a with state := st } else a) = _
  rw [List.map_append, List.map_cons, hsame done fun a ha => hne a (.inl ha),
    hsame l fun a ha => hne a (.inr ha), if_pos rfl]

/-- **The loop over the accepted HTLCs**, wherever it ends. -/
theorem hasHtlcs_resolveAll (k : Hex) (st : HtlcState) (res : HookResult) {done l : List Htlc}
    (hrequests : ∀ h ∈ l, ∀ r, h.requestCallback = some r → r.htlc.key = h.key)
    (hw : w.HasHtlcs k inv (done ++ l)) :
    (final (l.forM fun h => if h.state = .accepted then resolveHtlc k h st res else pure ())
      w).HasHtlcs k inv (done ++ w.resolved st l) := by
  induction l generalizing w done with
  | nil => exact hw
  | cons h l ih =>
    have ih := fun (s : World) (m : List Htlc) (hs : s.HasHtlcs k inv (m ++ l)) =>
      ih (fun a ha => hrequests a (List.mem_cons_of_mem h ha)) hs
    show (final ((if h.state = .accepted then resolveHtlc k h st res else pure ()) >>= fun _ =>
      l.forM fun h => if h.state = .accepted then resolveHtlc k h st res else pure ())
        w).HasHtlcs k inv (done ++ w.resolved st (h :: l))
    unfold World.resolved
    by_cases hacc : h.state = .accepted
    · rw [if_pos hacc, if_neg (not_not.mpr hacc)]
      have hset : (w.mutHoldInvoice k (·.setHtlcState h.key st) fun _ => rfl).HasHtlcs k inv
          (done ++ { h with state := st } :: l) := hw.setHtlcState
      by_cases hopen : w.Open h
      · rw [if_pos hopen]
        obtain ⟨request, hrequest, hnot⟩ := hopen
        rw [final_bind_ok (resolveHtlc_open k st res hacc hrequest hnot)]
        -- the other HTLCs have callbacks of their own
        have hsame : ∀ a ∈ l, (((w.mutHoldInvoice k (·.setHtlcState h.key st) fun _ => rfl).say
            (.answer request res)).Open a ↔ w.Open a) := by
          intro a ha
          apply World.open_iff_of_answer rfl
          rintro r hr rfl
          have hkey := hrequests a (List.mem_cons_of_mem h ha) r hr
          rw [hrequests h List.mem_cons_self r hrequest] at hkey
          obtain ⟨hnodup, -⟩ := hw
          rw [List.map_append, List.map_cons, List.nodup_append, List.nodup_cons] at hnodup
          exact hnodup.2.1.1 (hkey ▸ List.mem_map_of_mem ha)
        have hnext := ih ((w.mutHoldInvoice k (·.setHtlcState h.key st) fun _ => rfl).say
          (.answer request res)) (done ++ [{ h with state := st }])
        rw [World.resolved_congr hsame, List.append_assoc, List.append_assoc] at hnext
        exact hnext hset
      · rw [if_neg hopen]
        cases hrequest : h.requestCallback with
        | none =>
          have hrun : resolveHtlc k h st res w = .error .AssertionError w := by
            unfold resolveHtlc
            rw [if_pos hacc, hrequest]
            rfl
          rw [final_bind_error hrun, if_pos rfl]
          exact hw
        | some request =>
          have hanswered : (w.mutHoldInvoice k (·.setHtlcState h.key st)
              fun _ => rfl).Answered request := by
            by_contra hnot
            exact hopen ⟨request, hrequest, hnot⟩
          have hrun : resolveHtlc k h st res w = _ :=
            (resolveHtlc_run hacc hrequest).trans (setResult_run request res _)
          rw [if_pos hanswered] at hrun
          rw [hrequest] at hset
          rw [final_bind_error hrun, if_neg (by simp)]
          exact hset.answered request
    · rw [if_neg hacc, if_pos hacc, pure_bind]
      have hnext := ih w (done ++ [h])
      rw [List.append_assoc, List.append_assoc] at hnext
      exact hnext hw

end

/-! ## The status -/

namespace HoldInvoice

/-- The status of an invoice says what is true of its HTLCs. -/
structure StatusMatches (inv : HoldInvoice) : Prop where
  unfunded : inv.fundingStatus = .unfunded →
    (inv.incomingHtlcs.msat Htlc.counted : Int) < inv.amountMsat
  funded : inv.fundingStatus = .funded →
    inv.amountMsat ≤ (inv.incomingHtlcs.msat Htlc.counted : Int)
  settled : inv.fundingStatus = .settled →
    (∀ h ∈ inv.incomingHtlcs, h.state ≠ .accepted) ∧ inv.amountMsat ≤ inv.msatIn .settled
  failed : inv.fundingStatus = .failed → ∀ h ∈ inv.incomingHtlcs, h.state ≠ .accepted

/-- Each HTLC has a hook call about itself as its callback. -/
def OwnRequests (inv : HoldInvoice) : Prop :=
  ∀ h ∈ inv.incomingHtlcs, ∀ r, h.requestCallback = some r → r.htlc.key = h.key

variable {inv : HoldInvoice}

/-- An invoice without an accepted HTLC has in settled ones what it has. -/
theorem msatIn_settled_of_none (h : ∀ a ∈ inv.incomingHtlcs, a.state ≠ .accepted) :
    inv.msatIn .settled = inv.incomingHtlcs.msat Htlc.counted := by
  unfold msatIn
  rw [HtlcSet.msat_congr (q := Htlc.counted)]
  intro a ha
  simp [Htlc.counted, h a ha]

/-- An invoice with the status of another one and HTLCs that sum up alike. -/
theorem StatusMatches.congr {inv' : HoldInvoice} (h : inv.StatusMatches)
    (hstatus : inv'.fundingStatus = inv.fundingStatus) (hamount : inv'.amountMsat = inv.amountMsat)
    (hcounted : inv'.incomingHtlcs.msat Htlc.counted = inv.incomingHtlcs.msat Htlc.counted)
    (haccepted : (∀ a ∈ inv.incomingHtlcs, a.state ≠ .accepted) →
      ∀ a ∈ inv'.incomingHtlcs, a.state ≠ .accepted) : inv'.StatusMatches where
  unfunded hst := by
    rw [hcounted, hamount]
    exact h.unfunded (hstatus ▸ hst)
  funded hst := by
    rw [hcounted, hamount]
    exact h.funded (hstatus ▸ hst)
  settled hst := by
    obtain ⟨hnone, hsum⟩ := h.settled (hstatus ▸ hst)
    rw [msatIn_settled_of_none hnone] at hsum
    refine ⟨haccepted hnone, ?_⟩
    rw [msatIn_settled_of_none (haccepted hnone), hcounted, hamount]
    exact hsum
  failed hst := haccepted (h.failed (hstatus ▸ hst))

theorem statusMatches_new (paymentHash : Bytes) (bolt11 : String) {amountMsat : Int}
    (expiry now : Nat) (hamount : 0 < amountMsat) :
    (HoldInvoice.new paymentHash bolt11 amountMsat expiry now).StatusMatches where
  unfunded _ := hamount
  funded h := by cases h
  settled h := by cases h
  failed h := by cases h

end HoldInvoice

/-! ## One operation -/

section

/-- Cancelling a funded invoice answers every accepted HTLC, or takes no more than the invoice has
over its amount. -/
def World.CancelKeeps (w : World) (inv : HoldInvoice) : Prop :=
  inv.fundingStatus = .funded → w.AllOpen inv.incomingHtlcs.elems ∨
    inv.amountMsat + w.takenAway inv.incomingHtlcs.elems ≤ inv.incomingHtlcs.msat Htlc.counted

variable {k : Hex} {inv : HoldInvoice} {w w₀ : World} {st : HtlcState} {res : HookResult}

/-- **A loop over the accepted HTLCs with the status last**: every HTLC has been answered and the
status is set, or the loop was stopped and the status is what it was. -/
theorem hasHtlcs_resolveThen (k : Hex) (st : HtlcState) (res : HookResult) {status : InvoiceState}
    {x : PyM Unit}
    (hx : ∀ s l, s.HasHtlcs k inv l → (final x s).HasHtlcs k (inv.setFundingStatus status) l)
    (hget : w.holdInvoices.get? k = some inv) (hown : inv.OwnRequests) :
    (w.AllOpen inv.incomingHtlcs.elems ∧
      (final (forAccepted inv (fun h => resolveHtlc k h st res) >>= fun _ => x) w).HasHtlcs k
        (inv.setFundingStatus status) (w.resolved st inv.incomingHtlcs.elems)) ∨
    (¬ w.AllOpen inv.incomingHtlcs.elems ∧
      (final (forAccepted inv (fun h => resolveHtlc k h st res) >>= fun _ => x) w).HasHtlcs k
        inv (w.resolved st inv.incomingHtlcs.elems)) := by
  have hstart : w.HasHtlcs k inv ([] ++ inv.incomingHtlcs.elems) := ⟨inv.incomingHtlcs.nodup, hget⟩
  have hloop := hasHtlcs_resolveAll k st res hown hstart
  have hreturns := resolveAll_returns_iff k st res inv.incomingHtlcs.nodup hown w
  unfold forAccepted
  cases hr : (inv.incomingHtlcs.elems.forM fun h =>
      if h.state = .accepted then resolveHtlc k h st res else pure ()) w with
  | ok a s =>
    rw [final_bind_ok hr]
    left
    unfold returns final at *
    rw [hr] at hloop hreturns
    exact ⟨hreturns.mp rfl, hx s _ hloop⟩
  | error e s =>
    rw [final_bind_error hr]
    right
    unfold returns final at *
    rw [hr] at hloop hreturns
    exact ⟨fun hall => Bool.noConfusion (hreturns.mpr hall), hloop⟩

/-- The invoice under `k` has the status its HTLCs ask for. -/
def World.Tallies (w : World) (k : Hex) : Prop :=
  ∃ inv, w.holdInvoices.get? k = some inv ∧ inv.StatusMatches ∧ inv.OwnRequests

/-- What the loop leaves is tallied when the status matches it. -/
theorem World.HasHtlcs.tallies {inv' : HoldInvoice}
    (hw : w.HasHtlcs k inv' (w₀.resolved st inv.incomingHtlcs.elems)) (hown : inv.OwnRequests)
    (hmatches : ∀ h, HoldInvoice.StatusMatches { inv' with
      incomingHtlcs := ⟨w₀.resolved st inv.incomingHtlcs.elems, h⟩ }) : w.Tallies k := by
  obtain ⟨hnodup, hget⟩ := hw
  refine ⟨_, hget, hmatches hnodup, fun a ha r hr => ?_⟩
  obtain ⟨b, hb, hkey, hcallback⟩ := World.mem_resolved ha
  rw [← hkey]
  exact hown b hb r (hcallback.trans hr)

/-- What `cancel_all_htlcs` leaves of the invoice: it got through to the status, or was stopped at an
HTLC that is accepted. -/
theorem cancelAllHtlcs_run (hget : w.holdInvoices.get? k = some inv) (hown : inv.OwnRequests) :
    (w.AllOpen inv.incomingHtlcs.elems ∧ (final (cancelAllHtlcs inv) w).HasHtlcs k
      (inv.setFundingStatus .failed) (w.resolved .cancelled inv.incomingHtlcs.elems)) ∨
    (¬ w.AllOpen inv.incomingHtlcs.elems ∧ (final (cancelAllHtlcs inv) w).HasHtlcs k inv
      (w.resolved .cancelled inv.incomingHtlcs.elems)) := by
  have hk : hex inv.paymentHash = k := HoldInvoices.hex_paymentHash hget
  have hfail : ∀ s l, s.HasHtlcs k inv l →
      (final (modify (World.mutHoldInvoice k (·.setFundingStatus .failed) fun _ => rfl) : PyM Unit)
        s).HasHtlcs k (inv.setFundingStatus .failed) l :=
    fun s l hs => hs.setFundingStatus
  unfold cancelAllHtlcs failHtlc
  rw [hk]
  exact hasHtlcs_resolveThen k .cancelled (.fail "400F") hfail hget hown

/-- `cancel_all_htlcs` keeps the status right when it keeps what a funded invoice needs. -/
theorem cancelAllHtlcs_tallies (hget : w.holdInvoices.get? k = some inv)
    (hmatches : inv.StatusMatches) (hown : inv.OwnRequests) (hkeeps : w.CancelKeeps inv) :
    (final (cancelAllHtlcs inv) w).Tallies k := by
  have hsum := w.counted_resolved_cancelled inv.incomingHtlcs.elems
  rcases cancelAllHtlcs_run hget hown with ⟨hopen, hafter⟩ | ⟨hstopped, hafter⟩
  · have hnone : ∀ a ∈ w.resolved .cancelled inv.incomingHtlcs.elems, a.state ≠ .accepted :=
      World.not_accepted_of_allOpen hopen (by decide)
    refine hafter.tallies hown fun h => ?_
    exact ⟨nofun, nofun, nofun, fun _ => hnone⟩
  · obtain ⟨a, ha, hacc⟩ : ∃ a ∈ inv.incomingHtlcs.elems, a.state = .accepted := by
      by_contra hnone
      exact hstopped fun a ha hacc => absurd ⟨a, ha, hacc⟩ hnone
    refine hafter.tallies hown fun h => ⟨fun hst => ?_, fun hst => ?_,
      fun hst => absurd hacc ((hmatches.settled hst).1 a ha),
      fun hst => absurd hacc (hmatches.failed hst a ha)⟩
    · have hless : (msatOf Htlc.counted inv.incomingHtlcs.elems : Int) < inv.amountMsat :=
        hmatches.unfunded hst
      show (msatOf Htlc.counted (w.resolved .cancelled inv.incomingHtlcs.elems) : Int)
        < inv.amountMsat
      omega
    · have henough : inv.amountMsat + w.takenAway inv.incomingHtlcs.elems
          ≤ (msatOf Htlc.counted inv.incomingHtlcs.elems : Int) :=
        (hkeeps hst).resolve_left hstopped
      show inv.amountMsat
        ≤ (msatOf Htlc.counted (w.resolved .cancelled inv.incomingHtlcs.elems) : Int)
      omega

/-- And only then. -/
theorem cancelKeeps_of_matches (hget : w.holdInvoices.get? k = some inv) (hown : inv.OwnRequests)
    {inv' : HoldInvoice} (hget' : (final (cancelAllHtlcs inv) w).holdInvoices.get? k = some inv')
    (hmatches' : inv'.StatusMatches) : w.CancelKeeps inv := by
  have hsum := w.counted_resolved_cancelled inv.incomingHtlcs.elems
  intro hfunded
  rcases cancelAllHtlcs_run hget hown with ⟨hopen, -⟩ | ⟨-, hnodup, hafter⟩
  · exact .inl hopen
  · rw [hafter] at hget'
    cases hget'
    have hstill : inv.amountMsat
        ≤ (msatOf Htlc.counted (w.resolved .cancelled inv.incomingHtlcs.elems) : Int) :=
      hmatches'.funded hfunded
    right
    show _ ≤ ((msatOf Htlc.counted inv.incomingHtlcs.elems : Nat) : Int)
    omega

/-- A change of the invoice that keeps its status right. -/
theorem World.Tallies.of_mut {f : HoldInvoice → HoldInvoice}
    {hf : ∀ inv, (f inv).paymentHash = inv.paymentHash} (hget : w.holdInvoices.get? k = some inv)
    (hmatches : (f inv).StatusMatches) (hown : (f inv).OwnRequests) :
    (w.mutHoldInvoice k f hf).Tallies k := by
  refine ⟨f inv, ?_, hmatches, hown⟩
  apply (World.get?_mutHoldInvoice _).trans
  rw [if_pos rfl, hget]
  rfl

/-- A change of the HTLCs one by one that keeps their states. -/
theorem HoldInvoice.StatusMatches.map {f : Htlc → Htlc} {hf : ∀ h, (f h).key = h.key}
    (hmatches : inv.StatusMatches) (hstate : ∀ h, (f h).state = h.state) :
    HoldInvoice.StatusMatches { inv with incomingHtlcs := inv.incomingHtlcs.map f hf } := by
  have hsum : (inv.incomingHtlcs.map f hf).msat Htlc.counted
      = inv.incomingHtlcs.msat Htlc.counted := by
    refine HtlcSet.msat_map fun h _ => ?_
    unfold Htlc.counted
    rw [hstate]
  refine hmatches.congr rfl rfl hsum fun hnone a ha => ?_
  obtain ⟨b, hb, rfl⟩ := (HtlcSet.mem_map hf).mp ha
  rw [hstate]
  exact hnone b hb

theorem HoldInvoice.StatusMatches.setHtlcCallback (hmatches : inv.StatusMatches) (κ : HtlcKey)
    (request : Request) : (inv.setHtlcCallback κ request).StatusMatches := by
  refine HoldInvoice.StatusMatches.map hmatches fun h => ?_
  split
  · rfl
  · rfl

theorem HoldInvoice.OwnRequests.setHtlcCallback (hown : inv.OwnRequests) {κ : HtlcKey}
    {request : Request} (hκ : κ = request.htlc.key) :
    (inv.setHtlcCallback κ request).OwnRequests := by
  intro a ha r hr
  obtain ⟨b, hb, rfl⟩ := HoldInvoice.mem_setHtlcCallback.mp ha
  split at hr
  · next hk =>
    rw [if_pos hk]
    cases hr
    exact (hk.trans hκ).symm
  · next hk =>
    rw [if_neg hk]
    exact hown b hb r hr

/-- A new HTLC comes with the hook call it was offered by. -/
theorem HoldInvoice.OwnRequests.append {inv' : HoldInvoice} {a : Htlc} {request : Request}
    (hown : inv.OwnRequests) (helems : inv'.incomingHtlcs.elems = inv.incomingHtlcs.elems ++ [a])
    (hkey : a.key = request.htlc.key) (hcallback : a.requestCallback = some request) :
    inv'.OwnRequests := by
  intro b hb r hr
  have hb : b ∈ inv.incomingHtlcs.elems ++ [a] := helems ▸ hb
  rcases List.mem_append.mp hb with hb | hb
  · exact hown b hb r hr
  · obtain rfl := List.mem_singleton.mp hb
    rw [hcallback] at hr
    cases hr
    exact hkey.symm

section

variable {env : Env} {payment_secret : Option Bytes} {request : Request}

/-- A known HTLC gets a new callback. -/
theorem handleHtlc_tallies_known {existing : Htlc} (hget : w.holdInvoices.get? k = some inv)
    (hmatches : inv.StatusMatches) (hown : inv.OwnRequests)
    (hfind : inv.findHtlc request.htlc.key = some existing) :
    (final (handleHtlc env inv payment_secret request) w).Tallies k := by
  have hk : hex inv.paymentHash = k := HoldInvoices.hex_paymentHash hget
  have hkey : existing.key = request.htlc.key := (HtlcSet.mem_of_find? hfind).2
  have hrun : handleHtlc env inv payment_secret request w = .ok false
      (w.mutHoldInvoice k (·.setHtlcCallback existing.key request) fun _ => rfl) := by
    dsimp only [handleHtlc]
    simp only [Htlc.key_fromClnDict, hfind, hk]
    rfl
  unfold final
  rw [hrun]
  exact .of_mut hget (hmatches.setHtlcCallback _ _) (hown.setHtlcCallback hkey)

/-- The invoice of a new HTLC. -/
theorem World.get?_added {htlc : Htlc} (hget : w.holdInvoices.get? k = some inv) :
    (w.mutHoldInvoice k (·.addHtlc htlc) fun _ => rfl).holdInvoices.get? k
      = some (inv.addHtlc htlc) := by
  apply (World.get?_mutHoldInvoice _).trans
  rw [if_pos rfl, hget]
  rfl

/-- A new HTLC that is turned down does not count. -/
theorem handleHtlc_tallies_rejects (hget : w.holdInvoices.get? k = some inv)
    (hmatches : inv.StatusMatches) (hown : inv.OwnRequests)
    (hfind : inv.findHtlc request.htlc.key = none)
    (hcheck : checkHtlc env inv payment_secret request.htlc = .ok false) :
    (final (handleHtlc env inv payment_secret request) w).Tallies k := by
  have hk : hex inv.paymentHash = k := HoldInvoices.hex_paymentHash hget
  let htlc := Htlc.fromClnDict request.htlc request env.now
  let rejected := (w.mutHoldInvoice k (·.addHtlc htlc) fun _ => rfl).mutHoldInvoice k
    (·.setHtlcState htlc.key .cancelled) fun _ => rfl
  have hrun : handleHtlc env inv payment_secret request w
      = (setResult request (.fail "400F") >>= fun _ => pure true) rejected := by
    dsimp only [handleHtlc]
    simp only [Htlc.key_fromClnDict, hfind, hk, hcheck]
    rfl
  have hnew : inv.incomingHtlcs.find? htlc.key = none := hfind
  have helems : ((inv.addHtlc htlc).setHtlcState htlc.key .cancelled).incomingHtlcs.elems
      = inv.incomingHtlcs.elems ++ [{ htlc with state := .cancelled }] :=
    HtlcSet.elems_modify_add (f := fun h => { h with state := .cancelled }) hnew fun _ => rfl
  have hgone : Htlc.counted { htlc with state := .cancelled } = false := by
    simp [Htlc.counted]
  obtain ⟨inv', hget', hrest⟩ : rejected.Tallies k := by
    refine .of_mut (World.get?_added hget) (hmatches.congr rfl rfl ?_ fun hnone a ha => ?_)
      (hown.append helems rfl rfl)
    · show msatOf Htlc.counted _ = msatOf Htlc.counted _
      rw [helems, msatOf_append, msatOf_cons, hgone]
      rfl
    · have ha : a ∈ inv.incomingHtlcs.elems ++ [{ htlc with state := .cancelled }] := helems ▸ ha
      rcases List.mem_append.mp ha with ha | ha
      · exact hnone a ha
      · obtain rfl := List.mem_singleton.mp ha
        exact fun h => by cases h
  refine ⟨inv', ?_, hrest⟩
  rw [final_congr hrun, ← hget']
  have hanswer := setResult_run request (.fail "400F") rejected
  split at hanswer
  · rw [final_bind_error hanswer, World.answered_holdInvoices]
  · rw [final_bind_ok hanswer]
    show (World.answered _ _ _).holdInvoices.get? k = _
    rw [World.answered_holdInvoices]

/-- A new HTLC that is let in: the status follows the sum. -/
theorem handleHtlc_tallies_admits (hget : w.holdInvoices.get? k = some inv)
    (hown : inv.OwnRequests) (hfind : inv.findHtlc request.htlc.key = none)
    (hcheck : checkHtlc env inv payment_secret request.htlc = .ok true) :
    (final (handleHtlc env inv payment_secret request) w).Tallies k := by
  have hk : hex inv.paymentHash = k := HoldInvoices.hex_paymentHash hget
  have hunfunded := (checkHtlc_passed hcheck).1
  let htlc := Htlc.fromClnDict request.htlc request env.now
  let added := w.mutHoldInvoice k (·.addHtlc htlc) fun _ => rfl
  have hget' : added.holdInvoices.get? k = some (inv.addHtlc htlc) := World.get?_added hget
  have hnew : inv.incomingHtlcs.find? htlc.key = none := hfind
  have hown' : (inv.addHtlc htlc).OwnRequests := hown.append (HtlcSet.elems_add hnew) rfl rfl
  by_cases hfull : (inv.addHtlc htlc).isFullyFunded = true
  · have hrun : handleHtlc env inv payment_secret request w = .ok true
        ((added.mutHoldInvoice k (·.setFundingStatus .funded) fun _ => rfl).say
          (.funded ((inv.addHtlc htlc).setFundingStatus .funded))) := by
      dsimp only [handleHtlc]
      simp only [Htlc.key_fromClnDict, hfind, hk, hcheck]
      rw [if_pos hfull]
      rfl
    obtain ⟨inv', hget'', hrest⟩ : (added.mutHoldInvoice k (·.setFundingStatus .funded)
        fun _ => rfl).Tallies k := by
      refine .of_mut hget' ⟨fun h => ?_, fun _ => ?_, fun h => ?_, fun h => ?_⟩ hown'
      · cases h
      · exact of_decide_eq_true hfull
      · cases h
      · cases h
    unfold final
    rw [hrun]
    exact ⟨inv', hget'', hrest⟩
  · have hrun : handleHtlc env inv payment_secret request w = .ok true added := by
      dsimp only [handleHtlc]
      simp only [Htlc.key_fromClnDict, hfind, hk, hcheck]
      rw [if_neg hfull]
      rfl
    have hstatus : ∀ st, st ≠ .unfunded → (inv.addHtlc htlc).fundingStatus ≠ st :=
      fun st hst h => hst (h.symm.trans hunfunded)
    unfold final
    rw [hrun]
    refine ⟨_, hget', ⟨fun _ => ?_, fun h => absurd h (hstatus _ (by decide)),
      fun h => absurd h (hstatus _ (by decide)), fun h => absurd h (hstatus _ (by decide))⟩, hown'⟩
    exact Int.not_le.mp fun hle => hfull (decide_eq_true hle)

/-- `handle_htlc` keeps the status right when it returns. -/
theorem handleHtlc_tallies (hget : w.holdInvoices.get? k = some inv) (hmatches : inv.StatusMatches)
    (hown : inv.OwnRequests)
    (hreturns : returns (handleHtlc env inv payment_secret request) w = true) :
    (final (handleHtlc env inv payment_secret request) w).Tallies k := by
  cases hfind : inv.findHtlc request.htlc.key with
  | some existing => exact handleHtlc_tallies_known hget hmatches hown hfind
  | none =>
    cases hcheck : checkHtlc env inv payment_secret request.htlc with
    | ok passed =>
      cases passed with
      | false => exact handleHtlc_tallies_rejects hget hmatches hown hfind hcheck
      | true => exact handleHtlc_tallies_admits hget hown hfind hcheck
    | error e =>
      exfalso
      unfold returns at hreturns
      dsimp only [handleHtlc] at hreturns
      simp only [Htlc.key_fromClnDict, hfind, hcheck] at hreturns
      exact Bool.noConfusion hreturns

end

end

/-! ## Any number of operations -/

section

variable [Deployment] {k : Hex} {inv : HoldInvoice} {w : World}

/-- `settle` keeps the status right wherever it stops. -/
theorem settleInvoice_tallies (hget : w.holdInvoices.get? k = some inv)
    (hmatches : inv.StatusMatches) (hown : inv.OwnRequests) (preimage : Option Bytes) :
    (final (settleInvoice inv preimage) w).Tallies k := by
  have hk : hex inv.paymentHash = k := HoldInvoices.hex_paymentHash hget
  have hsame : w.Tallies k := ⟨inv, hget, hmatches, hown⟩
  cases preimage with
  | none => exact hsame
  | some preimage =>
    unfold settleInvoice settleHtlc
    dsimp only
    rw [hk]
    by_cases hhash : inv.paymentHash = sha256 preimage
    · rw [decide_eq_true hhash, pyAssert_true, pure_bind]
      by_cases hfull : inv.isFullyFunded = true
      · rw [if_pos hfull, pure_bind]
        have henough : inv.amountMsat ≤ (inv.incomingHtlcs.msat Htlc.counted : Int) :=
          of_decide_eq_true hfull
        have hcounted := w.counted_resolved_settled inv.incomingHtlcs.elems
        have hset : ∀ s l, s.HasHtlcs k inv l →
            (final (do
              modify (World.mutHoldInvoice k (·.setFundingStatus .settled) fun _ => rfl)
              emit (.settled inv.paymentHash preimage) : PyM Unit) s).HasHtlcs k
                (inv.setFundingStatus .settled) l :=
          fun s l hs => hs.setFundingStatus
        rcases hasHtlcs_resolveThen k .settled (.resolve preimage) hset hget hown with
          ⟨hopen, hafter⟩ | ⟨hstopped, hafter⟩
        · have hnone : ∀ a ∈ w.resolved .settled inv.incomingHtlcs.elems, a.state ≠ .accepted :=
            World.not_accepted_of_allOpen hopen (by decide)
          refine hafter.tallies hown fun h => ?_
          refine ⟨nofun, nofun, fun _ => ⟨hnone, ?_⟩, nofun⟩
          rw [HoldInvoice.msatIn_settled_of_none hnone]
          show _ ≤ (msatOf Htlc.counted (w.resolved .settled inv.incomingHtlcs.elems) : Int)
          rw [hcounted]
          exact henough
        · refine hafter.tallies hown fun h => hmatches.congr rfl rfl hcounted fun hnone => ?_
          show ∀ a ∈ w.resolved .settled inv.incomingHtlcs.elems, _
          rw [World.resolved_of_none hnone]
          exact hnone
      · rw [if_neg hfull]
        exact hsame
    · rw [decide_eq_false hhash]
      exact hsame

omit [Deployment] in
theorem HoldInvoice.paymentHash_reorderHtlcs (order : List Htlc) (inv : HoldInvoice) :
    (inv.reorderHtlcs order).paymentHash = inv.paymentHash := rfl

/-- What is done with a hold invoice. -/
inductive InvoiceOp
  | handleHtlc (env : Env) (payment_secret : Option Bytes) (request : Request)
  | settle (preimage : Option Bytes)
  | cancelAllHtlcs
  /-- The invoice is written to JSON and read back. -/
  | reload
  | addNewHtlcCallback (request : Request)
  | rehash (order : List Htlc)

/-- The operation on the invoice stored under `k`. -/
def InvoiceOp.run (k : Hex) (op : InvoiceOp) : PyM Unit := do
  let w ← get
  match w.holdInvoices.get? k with
  | none => pure ()
  | some invoice =>
    match op with
    | .handleHtlc env payment_secret request => do
      let _ ← SubswapProvider.handleHtlc env invoice payment_secret request
      pure ()
    | .settle preimage => settleInvoice invoice preimage
    | .cancelAllHtlcs => SubswapProvider.cancelAllHtlcs invoice
    | .reload => modify (World.mutHoldInvoice k HoldInvoice.stored fun _ => rfl)
    | .addNewHtlcCallback request =>
      modify (World.mutHoldInvoice k (·.setHtlcCallback request.htlc.key request) fun _ => rfl)
    | .rehash order =>
      modify (World.mutHoldInvoice k (·.reorderHtlcs order) (HoldInvoice.paymentHash_reorderHtlcs order))

/-- A call of `handle_htlc` returns normally. -/
def InvoiceOp.HandleReturns (k : Hex) (w : World) (op : InvoiceOp) : Prop :=
  match op with
  | .handleHtlc _ _ _ => returns (op.run k) w = true
  | _ => True

/-- Besides, cancelling keeps what a funded invoice needs. -/
def InvoiceOp.Ok (k : Hex) (w : World) (op : InvoiceOp) : Prop :=
  match op with
  | .handleHtlc _ _ _ => returns (op.run k) w = true
  | .cancelAllHtlcs => ∀ inv, w.holdInvoices.get? k = some inv → w.CancelKeeps inv
  | _ => True

/-- The state in which an operation leaves the process, also when it raises. -/
def InvoiceOp.step (k : Hex) (op : InvoiceOp) (w : World) : World := final (op.run k) w

/-- **Every operation keeps the status right.** -/
theorem InvoiceOp.step_tallies (op : InvoiceOp) (hok : op.Ok k w) (h : w.Tallies k) :
    (op.step k w).Tallies k := by
  obtain ⟨inv, hget, hmatches, hown⟩ := h
  cases op with
  | handleHtlc env payment_secret request =>
    have hrun : (InvoiceOp.handleHtlc env payment_secret request).run k w
        = (SubswapProvider.handleHtlc env inv payment_secret request >>= fun _ => pure ()) w := by
      unfold InvoiceOp.run
      rw [get_bind, hget]
    have hreturns : returns ((InvoiceOp.handleHtlc env payment_secret request).run k) w = true := hok
    unfold InvoiceOp.step
    rw [final_congr hrun]
    unfold returns at hreturns
    rw [hrun] at hreturns
    cases hr : SubswapProvider.handleHtlc env inv payment_secret request w with
    | ok changed s =>
      have hafter : (final (SubswapProvider.handleHtlc env inv payment_secret request) w).Tallies k :=
        handleHtlc_tallies hget hmatches hown (by unfold returns; rw [hr])
      rw [final_bind_ok hr]
      unfold final at hafter
      rw [hr] at hafter
      exact hafter
    | error e s =>
      rw [bind_error hr] at hreturns
      cases hreturns
  | settle preimage =>
    have hrun : (InvoiceOp.settle preimage).run k w = settleInvoice inv preimage w := by
      unfold InvoiceOp.run
      rw [get_bind, hget]
    unfold InvoiceOp.step
    rw [final_congr hrun]
    exact settleInvoice_tallies hget hmatches hown preimage
  | cancelAllHtlcs =>
    have hrun : InvoiceOp.cancelAllHtlcs.run k w = SubswapProvider.cancelAllHtlcs inv w := by
      unfold InvoiceOp.run
      rw [get_bind, hget]
    unfold InvoiceOp.step
    rw [final_congr hrun]
    exact cancelAllHtlcs_tallies hget hmatches hown (hok inv hget)
  | reload =>
    have hrun : InvoiceOp.reload.step k w = w.mutHoldInvoice k HoldInvoice.stored fun _ => rfl := by
      unfold InvoiceOp.step final InvoiceOp.run
      rw [get_bind, hget]
      rfl
    rw [hrun]
    refine .of_mut hget (HoldInvoice.StatusMatches.map hmatches fun _ => rfl) fun a ha r hr => ?_
    obtain ⟨b, -, rfl⟩ := HoldInvoice.mem_stored.mp ha
    cases hr
  | addNewHtlcCallback request =>
    have hrun : (InvoiceOp.addNewHtlcCallback request).step k w
        = w.mutHoldInvoice k (·.setHtlcCallback request.htlc.key request) fun _ => rfl := by
      unfold InvoiceOp.step final InvoiceOp.run
      rw [get_bind, hget]
      rfl
    rw [hrun]
    exact .of_mut hget (hmatches.setHtlcCallback _ _) (hown.setHtlcCallback rfl)
  | rehash order =>
    have hrun : (InvoiceOp.rehash order).step k w
        = w.mutHoldInvoice k (·.reorderHtlcs order) fun _ => rfl := by
      unfold InvoiceOp.step final InvoiceOp.run
      rw [get_bind, hget]
      rfl
    rw [hrun]
    refine .of_mut hget (hmatches.congr rfl rfl (HtlcSet.msat_reorder _ _ _) fun hnone a ha => ?_)
      fun a ha => ?_
    · exact hnone a (HtlcSet.mem_reorder.mp ha)
    · exact hown a (HtlcSet.mem_reorder.mp ha)

theorem InvoiceOp.step_cancelAllHtlcs (hget : w.holdInvoices.get? k = some inv) :
    InvoiceOp.cancelAllHtlcs.step k w = final (SubswapProvider.cancelAllHtlcs inv) w := by
  apply final_congr
  unfold InvoiceOp.run
  rw [get_bind, hget]

/-- **The status of a hold invoice matches its HTLCs**, in every run of operations in which
`handle_htlc` returns and cancelling keeps what a funded invoice needs; and it matches after
cancelling only if that has been kept. -/
theorem status_matches_htlcs (w w' : World) (paymentHash : Bytes) (bolt11 : String)
    (amountMsat : Int) (expiry now : Nat) (hamount : 0 < amountMsat)
    (hnew : w.getHoldInvoice paymentHash
      = some (HoldInvoice.new paymentHash bolt11 amountMsat expiry now))
    (hrun : Run (InvoiceOp.step (hex paymentHash)) (fun s op => op.Ok (hex paymentHash) s) w w') :
    ∃ inv, w'.getHoldInvoice paymentHash = some inv ∧ inv.StatusMatches ∧
      ((∃ inv', (InvoiceOp.cancelAllHtlcs.step (hex paymentHash) w').getHoldInvoice paymentHash
        = some inv' ∧ inv'.StatusMatches) ↔ w'.CancelKeeps inv) := by
  have hstart : w.Tallies (hex paymentHash) := by
    refine ⟨_, hnew, HoldInvoice.statusMatches_new _ _ _ _ hamount, fun _ h => ?_⟩
    exact absurd h (HtlcSet.notMem_empty _)
  obtain ⟨inv, hget, hmatches, hown⟩ := Run.invariant (I := fun s => s.Tallies (hex paymentHash))
    (fun _ op hok hs => InvoiceOp.step_tallies op hok hs) hrun hstart
  refine ⟨inv, hget, hmatches, ?_⟩
  rw [InvoiceOp.step_cancelAllHtlcs hget]
  constructor
  · rintro ⟨inv', hget', hmatches'⟩
    exact cancelKeeps_of_matches hget hown hget' hmatches'
  · intro hkeeps
    obtain ⟨inv', hget', hmatches', -⟩ := cancelAllHtlcs_tallies hget hmatches hown hkeeps
    exact ⟨inv', hget', hmatches'⟩

end

section Sample

open Sample

attribute [local instance] Sample.deployment

/-- An invoice of 1000 msat that nobody has paid yet. -/
def unpaid : World :=
  World.start.setHoldInvoice (HoldInvoice.new Sample.paymentHash "lnbcrt10n" 1000 3600 0)

/-- It is paid in two HTLCs, the process restarts, and the HTLCs of `replayed` come again. -/
def paidAndReloaded (replayed : List Nat) : List InvoiceOp :=
  [.handleHtlc Sample.env (some (List.replicate 32 6)) (htlcFor 1 Sample.paymentHash 600),
    .handleHtlc Sample.env (some (List.replicate 32 6)) (htlcFor 2 Sample.paymentHash 600),
    .reload] ++ replayed.map fun n =>
      .addNewHtlcCallback { htlcFor n Sample.paymentHash 600 with serial := n + 2 }

/-- The state after some operations. -/
def afterOps (ops : List InvoiceOp) : World :=
  ops.foldl (fun w op => op.step (hex Sample.paymentHash) w) unpaid

instance (w : World) (l : List Htlc) : Decidable (w.AllOpen l) :=
  inferInstanceAs (Decidable (∀ h ∈ l, h.state = .accepted → w.Open h))

instance (w : World) (inv : HoldInvoice) : Decidable (w.CancelKeeps inv) :=
  inferInstanceAs (Decidable (_ → _ ∨ _))

instance (k : Hex) (w : World) (op : InvoiceOp) : Decidable (op.HandleReturns k w) :=
  match op with
  | .handleHtlc env payment_secret request =>
    inferInstanceAs (Decidable (returns ((InvoiceOp.handleHtlc env payment_secret request).run k) w
      = true))
  | .settle _ | .cancelAllHtlcs | .reload | .addNewHtlcCallback _ | .rehash _ => .isTrue trivial

instance (k : Hex) (w : World) (op : InvoiceOp) : Decidable (op.Ok k w) :=
  match op with
  | .handleHtlc env payment_secret request =>
    inferInstanceAs (Decidable (returns ((InvoiceOp.handleHtlc env payment_secret request).run k) w
      = true))
  | .cancelAllHtlcs =>
    decidable_of_iff ((w.holdInvoices.get? k).all (fun inv => w.CancelKeeps inv) = true) (by
      unfold InvoiceOp.Ok
      cases w.holdInvoices.get? k <;> simp)
  | .settle _ | .reload | .addNewHtlcCallback _ | .rehash _ => .isTrue trivial

/-- Both HTLCs have been replayed: they are cancelled, and the invoice has failed. -/
theorem status_matches_htlcs_replayed :
    ∃ inv, (afterOps (paidAndReloaded [1, 2] ++ [.cancelAllHtlcs])).getHoldInvoice Sample.paymentHash
      = some inv ∧ inv.StatusMatches := by
  have hrun : Run (InvoiceOp.step (hex Sample.paymentHash))
      (fun s op => op.Ok (hex Sample.paymentHash) s) unpaid
      (afterOps (paidAndReloaded [1, 2] ++ [.cancelAllHtlcs])) :=
    Run.of_allows .refl (by decide +kernel)
  obtain ⟨inv, hget, hmatches, -⟩ := status_matches_htlcs unpaid _ Sample.paymentHash "lnbcrt10n"
    1000 3600 0 (by decide) rfl hrun
  exact ⟨inv, hget, hmatches⟩

/-- Only the first HTLC has been replayed when the invoice is cancelled: the second one stops the
loop, and the invoice stays `FUNDED` with 600 of its 1000 msat. -/
theorem cancel_leaves_funded :
    ∃ w w' inv, w.getHoldInvoice Sample.paymentHash
        = some (HoldInvoice.new Sample.paymentHash "lnbcrt10n" 1000 3600 0) ∧
      Run (InvoiceOp.step (hex Sample.paymentHash))
        (fun s op => op.HandleReturns (hex Sample.paymentHash) s) w w' ∧
      w'.getHoldInvoice Sample.paymentHash = some inv ∧ ¬ inv.StatusMatches := by
  have hleft : ((afterOps (paidAndReloaded [1] ++ [.cancelAllHtlcs])).getHoldInvoice
      Sample.paymentHash).any (fun inv => inv.fundingStatus = .funded ∧
        ¬ inv.amountMsat ≤ (inv.incomingHtlcs.msat Htlc.counted : Int)) = true := by decide +kernel
  obtain ⟨inv, hget, hinv⟩ := (Option.any_eq_true _ _).mp hleft
  obtain ⟨hfunded, hless⟩ := of_decide_eq_true hinv
  refine ⟨unpaid, _, inv, rfl, Run.of_allows .refl (by decide +kernel), hget, ?_⟩
  exact fun hmatches => hless (hmatches.funded hfunded)

end Sample

end SubswapProvider
