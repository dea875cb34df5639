import SubswapProvider.Provenance
import SubswapProvider.Bookkeeping

/-!
# The mining-fee prepayment is taken with the main payment

An HTLC of a prepay invoice is settled by the callback pass only, when the pass finds the hold invoice
it is attached to `FUNDED`. That invoice then still holds what funded it: as long as no swap is
finished on the chain, no HTLC of it is settled (`MainUnsettled`), and the pass changes prepay
invoices only (`Prepays`).
-/

namespace SubswapProvider

open Deployment Effect

/-- No step of the run is a callback of the chain monitor. -/
def NoClaims (actions : List Action) : Prop :=
  ∀ a ∈ actions, ∀ env address, a ≠ .claim env address

theorem NoClaims.last {past : List Action} {a : Action} (hc : NoClaims (past ++ [a])) (env : Env)
    (address : Address) : a ≠ .claim env address :=
  hc a (List.mem_append_right _ (List.mem_singleton_self a)) env address

theorem NoClaims.init {past : List Action} {a : Action} (hc : NoClaims (past ++ [a])) :
    NoClaims past :=
  fun b hb => hc b (List.mem_append_left _ hb)

section

variable [Deployment] {actions past : List Action} {a : Action} {w₀ w w' : World} {h p : Bytes}

/-! ## What may be settled -/

/-- Without the chain monitor only a prepay invoice is settled. -/
theorem MaySettle.prepay_of {k : Hex} (hc : ∀ env address, a ≠ .claim env address)
    (hprov : Provenance actions w) (hmay : MaySettle a w k) :
    ∃ env main q, a = .callbacks env ∧ w.holdInvoices.get? (hex main.paymentHash) = some main ∧
      main.fundingStatus = .funded ∧ main.associatedInvoice = some q ∧ k = hex q ∧
      Paired actions main.paymentHash q := by
  cases hmay with
  | prepay env main q ha hmain hfunded hassoc hk =>
    exact ⟨env, main, q, ha, hmain, hfunded, hassoc, hk, (hprov.holds.live _ main hmain).paired q hassoc⟩
  | claim env address ref ha => exact absurd ha (hc env address)

/-- The hold invoice of a swap is not settled. -/
theorem MaySettle.not_main (hd : DistinctHashes actions)
    (hc : ∀ env address, a ≠ .claim env address) (hprov : Provenance actions w)
    (hmay : MaySettle a w (hex h)) (hpair : Paired actions h p) : False := by
  obtain ⟨env, main, q, -, -, -, -, hk, hq⟩ := hmay.prepay_of hc hprov
  rw [hex_inj] at hk
  exact hd.prepay_ne_main (hk ▸ hq) hpair

/-! ## The HTLCs of a main invoice -/

/-- No HTLC of the hold invoice of a swap is settled. -/
def MainUnsettled (actions : List Action) (inv : HoldInvoice) : Prop :=
  (∃ p, Paired actions inv.paymentHash p) → ∀ x ∈ inv.incomingHtlcs, x.state ≠ .settled

theorem Alters.mainUnsettled {k : Hex} {inv inv' : HoldInvoice} (hd : DistinctHashes actions)
    (hc : ∀ env address, a ≠ .claim env address) (hprov : Provenance actions w)
    (hget : w.holdInvoices.get? k = some inv) (hal : Alters a w k inv inv')
    (hinv : MainUnsettled actions inv) : MainUnsettled actions inv' := by
  intro hpair x hx
  rw [hal.paymentHash] at hpair
  cases hal with
  | replay request existing =>
    obtain ⟨y, hy, rfl⟩ := HoldInvoice.mem_setHtlcCallback.mp hx
    split
    · exact hinv hpair y hy
    · exact hinv hpair y hy
  | add request now ha hk' hfind =>
    rcases (HoldInvoice.mem_addHtlc hfind).mp hx with hx | rfl
    · exact hinv hpair x hx
    · exact fun h => nomatch h
  | resolve htlc request st res hmem hstate hrequest hres =>
    obtain ⟨y, hy, rfl⟩ := HoldInvoice.mem_setHtlcState.mp hx
    split
    · cases hres with
      | settle preimage hmay =>
        obtain ⟨q, hq⟩ := hpair
        rw [← HoldInvoices.hex_paymentHash hget] at hmay
        exact (hmay.not_main hd hc hprov hq).elim
      | reject => exact fun h => nomatch h
      | cancel => exact fun h => nomatch h
    · exact hinv hpair y hy
  | reorder order => exact hinv hpair x (HtlcSet.mem_reorder.mp hx)
  | _ => exact hinv hpair x hx

theorem mainsUnsettled (actions : List Action) (hd : DistinctHashes actions) (hc : NoClaims actions) :
    HoldsThroughout (fun _ => MainUnsettled actions) (runOf actions World.start) := by
  refine runOf_induction (I := fun past w => NoClaims past →
    HoldsThroughout (fun _ => MainUnsettled past) w) (fun _ => .start) (fun past a w hw hd ih hc => ?_)
    actions hd hc
  have hprov : Provenance past w := hw ▸ provenance past
  have hall : HoldsThroughout (fun _ => MainUnsettled (past ++ [a])) w := by
    refine ((hprov.holds.and (ih hc.init)).mono fun _ inv hinv hpair => hinv.2 ?_)
    obtain ⟨p, hp⟩ := hpair
    rcases hp.of_append with hp | hnew
    · exact ⟨p, hp⟩
    · exact absurd hinv.1.used (hd.fresh (Action.main_mem hnew))
  have hprovenance : Survives a w (Provenance (past ++ [a])) := survives_provenance w
  have hsurvives := hprovenance.holds
    (P := MainUnsettled (past ++ [a])) (fun inv hinv hpair x hx => ?_)
    (fun _ inv _ hfresh _ x hx => ?_)
    fun w' k inv inv' hprov hget hal hinv => hal.mainUnsettled hd hc.last hprov hget hinv
  · exact (step_invariant hsurvives ⟨hprov.append, hall⟩).2
  · obtain ⟨y, hy, rfl⟩ := HoldInvoice.mem_stored.mp hx
    exact hinv hpair y hy
  · rw [hfresh.htlcs] at hx
    exact absurd hx (HtlcSet.notMem_empty x)

/-- What counts on the hold invoice of a swap is accepted. -/
theorem MainUnsettled.accepted {inv : HoldInvoice} (hinv : MainUnsettled actions inv)
    (hpair : Paired actions inv.paymentHash p) (hfull : inv.isFullyFunded = true) :
    inv.amountMsat ≤ inv.msatIn .accepted := by
  have heq : inv.incomingHtlcs.msat (fun x => x.state = .accepted)
      = inv.incomingHtlcs.msat Htlc.counted := by
    refine HtlcSet.msat_congr fun x hx => ?_
    have hx := hinv ⟨p, hpair⟩ x hx
    unfold Htlc.counted
    cases hstate : x.state with
    | settled => exact absurd hstate hx
    | accepted => simp
    | cancelled => simp
  unfold HoldInvoice.msatIn
  rw [heq]
  exact of_decide_eq_true hfull

/-! ## One step -/

/-- What a step does to the invoices of a `createswap`: the callback pass leaves the main invoice
alone, and a prepay invoice is settled by it only, the main invoice being funded. -/
structure Prepays (actions : List Action) (a : Action) (w₀ w : World) : Prop where
  prov : Provenance actions w
  main : ∀ h p, Paired actions h p → (∃ env, a = .callbacks env) →
    w.holdInvoices.get? (hex h) = w₀.holdInvoices.get? (hex h)
  prepay : ∀ h p, Paired actions h p → ∀ inv, w.holdInvoices.get? (hex p) = some inv →
    ∀ x ∈ inv.incomingHtlcs, x.state = .settled →
      (∃ inv₀, w₀.holdInvoices.get? (hex p) = some inv₀ ∧
        ∃ x₀ ∈ inv₀.incomingHtlcs, x₀.key = x.key ∧ x₀.state = .settled) ∨
      ((∃ env, a = .callbacks env) ∧ ∃ inv₀, w₀.holdInvoices.get? (hex h) = some inv₀ ∧
        inv₀.fundingStatus = .funded ∧ inv₀.associatedInvoice = some p)

/-- The callback pass does not change the hold invoice of a swap. -/
theorem Alters.not_main {inv inv' : HoldInvoice} {env : Env} (hd : DistinctHashes actions)
    (hprov : Provenance actions w) (hpair : Paired actions h p)
    (hal : Alters (.callbacks env) w (hex h) inv inv') : inv' = inv := by
  have hc : ∀ env' address, Action.callbacks env ≠ .claim env' address := fun _ _ => nofun
  cases hal with
  | bundle q _ hq => cases hq
  | replay request existing ha => cases ha
  | add request now ha => cases ha
  | fund request ha => cases ha
  | fail env' ha => cases ha
  | reorder order ha => cases ha
  | settle hmay => exact (hmay.not_main hd hc hprov hpair).elim
  | resolve htlc request st res _ _ _ hres =>
    cases hres with
    | settle preimage hmay => exact (hmay.not_main hd hc hprov hpair).elim
    | reject ha => cases ha
    | cancel env' ha => cases ha

theorem Move.main_same {env : Env} (hd : DistinctHashes actions) (hprov : Provenance actions w)
    (hpair : Paired actions h p) (hmove : Move (.callbacks env) w₀ w w') :
    w'.holdInvoices.get? (hex h) = w.holdInvoices.get? (hex h) := by
  have hback : ∀ inv, w'.holdInvoices.get? (hex h) = some inv →
      w.holdInvoices.get? (hex h) = some inv := by
    intro inv hinv
    cases hmove.holdOrigin hinv with
    | same hinv => exact hinv
    | altered inv₀ hinv₀ hal => rw [hal.not_main hd hprov hpair]; exact hinv₀
    | fresh hfresh =>
      obtain ⟨_, _, hnew, -⟩ := hfresh.pair
      cases hnew
  have hforth : ∀ inv, w.holdInvoices.get? (hex h) = some inv →
      w'.holdInvoices.get? (hex h) = some inv := by
    intro inv hinv
    cases hmove.holdFate hinv with
    | same hinv => exact hinv
    | altered inv' hinv' hal => rw [hal.not_main hd hprov hpair] at hinv'; exact hinv'
    | replaced inv' _ hfresh =>
      obtain ⟨_, _, hnew, -⟩ := hfresh.pair
      cases hnew
    | popped hpop =>
      cases hpop with
      | expired env' ha => cases ha
      | refused _ _ ha => cases ha
      | finished env' address ha => cases ha
  cases hinv' : w'.holdInvoices.get? (hex h) with
  | some inv => exact (hback inv hinv').symm
  | none =>
    cases hinv : w.holdInvoices.get? (hex h) with
    | none => rfl
    | some inv => rw [hforth inv hinv] at hinv'; cases hinv'

theorem Prepays.move (hd : DistinctHashes (past ++ [a])) (hc : ∀ env address, a ≠ .claim env address)
    (hmove : Move a w₀ w w') (hw : Prepays (past ++ [a]) a w₀ w) :
    Prepays (past ++ [a]) a w₀ w' where
  prov := (survives_provenance w₀).move w w' hmove hw.prov
  main h p hpair ha := by
    obtain ⟨env, rfl⟩ := ha
    rw [hmove.main_same hd hw.prov hpair]
    exact hw.main h p hpair ⟨env, rfl⟩
  prepay h p hpair inv hinv x hx hsettled := by
    cases hmove.holdOrigin hinv with
    | same hinv => exact hw.prepay h p hpair inv hinv x hx hsettled
    | fresh hfresh =>
      rw [hfresh.htlcs] at hx
      exact absurd hx (HtlcSet.notMem_empty x)
    | altered inv₀ hinv₀ hal =>
      have hold := hw.prepay h p hpair inv₀ hinv₀
      cases hal with
      | replay request existing =>
        obtain ⟨y, hy, rfl⟩ := HoldInvoice.mem_setHtlcCallback.mp hx
        split at hsettled
        · next hk => rw [if_pos hk]; exact hold y hy hsettled
        · next hk => rw [if_neg hk]; exact hold y hy hsettled
      | add request now ha hk' hfind =>
        rcases (HoldInvoice.mem_addHtlc hfind).mp hx with hx | rfl
        · exact hold x hx hsettled
        · cases hsettled
      | resolve htlc request st res hmem hstate hrequest hres =>
        obtain ⟨y, hy, rfl⟩ := HoldInvoice.mem_setHtlcState.mp hx
        split at hsettled
        · cases hres with
          | settle preimage hmay =>
            obtain ⟨env, main, q, ha, hmain, hfunded, hassoc, hk, hq⟩ := hmay.prepay_of hc hw.prov
            rw [hex_inj] at hk
            subst hk
            have heq : main.paymentHash = h := hd.main_unique hq hpair
            refine .inr ⟨⟨env, ha⟩, main, ?_, hfunded, hassoc⟩
            rw [← hw.main h p hpair ⟨env, ha⟩, ← heq]
            exact hmain
          | reject => cases hsettled
          | cancel => cases hsettled
        · next hk => rw [if_neg hk]; exact hold y hy hsettled
      | reorder order => exact hold x (HtlcSet.mem_reorder.mp hx) hsettled
      | _ => exact hold x hx hsettled

theorem survives_prepays (hd : DistinctHashes (past ++ [a]))
    (hc : ∀ env address, a ≠ .claim env address) (hrestart : ¬ a.Restarts) :
    Survives a w₀ (Prepays (past ++ [a]) a w₀) where
  move _ _ hmove hw := hw.move hd hc hmove
  restart _ _ ha _ _ := absurd ha hrestart
  create w₁ w main ref hw₁ hdue hprepared hw href hnone :=
    ⟨(survives_provenance w₀).create w₁ w main ref hw₁.prov hdue hprepared hw.prov href hnone,
      hw.main, hw.prepay⟩
  send w₁ w main ref tx hw₁ hdue hprepared hw href hnone := by
    have hholds : ((w.createFunding ref).send ref tx).holdInvoices = w.holdInvoices :=
      World.assign_holdInvoices ref _ (w.createFunding ref)
    refine ⟨(survives_provenance w₀).send w₁ w main ref tx hw₁.prov hdue hprepared hw.prov href hnone,
      ?_, ?_⟩
    · rw [hholds]
      exact hw.main
    · rw [hholds]
      exact hw.prepay

theorem prepays_start (hprov : Provenance actions w₀) : Prepays actions a w₀ w₀ where
  prov := hprov
  main _ _ _ _ := rfl
  prepay _ _ _ inv hinv x hx hsettled := .inl ⟨inv, hinv, x, hx, rfl, hsettled⟩

/-- **A prepay invoice is settled with the main invoice paid**: where a step makes an HTLC of a prepay
invoice `SETTLED`, the hold invoice it is attached to is `FUNDED` before and after the step, and holds
`ACCEPTED` HTLCs of at least its amount. A restart settles nothing: what it puts in the place of the
process was settled by an earlier step. -/
theorem prepay_settled_with_main (actions : List Action) (a : Action)
    (hd : DistinctHashes (actions ++ [a])) (hc : NoClaims (actions ++ [a])) (hrestart : ¬ a.Restarts)
    (h p : Bytes) (hpair : Paired (actions ++ [a]) h p) (prepay : HoldInvoice) (htlc : Htlc)
    (hprepay : (runOf (actions ++ [a]) World.start).getHoldInvoice p = some prepay)
    (hmem : htlc ∈ prepay.incomingHtlcs) (hsettled : htlc.state = .settled)
    (hnew : ∀ inv, (runOf actions World.start).getHoldInvoice p = some inv →
      ∀ x ∈ inv.incomingHtlcs, x.key = htlc.key → x.state ≠ .settled) :
    ∃ main, (runOf actions World.start).getHoldInvoice h = some main ∧
      (runOf (actions ++ [a]) World.start).getHoldInvoice h = some main ∧
      main.associatedInvoice = some p ∧ main.fundingStatus = .funded ∧
      main.amountMsat ≤ main.msatIn .accepted := by
  let w₀ := runOf actions World.start
  have hprov : Provenance actions w₀ := provenance actions
  have hstep : Prepays (actions ++ [a]) a w₀ (step a w₀) :=
    step_invariant (survives_prepays hd hc.last hrestart) (prepays_start hprov.append)
  rw [runOf_append] at hprepay ⊢
  rcases hstep.prepay h p hpair prepay hprepay htlc hmem hsettled with hold | ⟨ha, main, hmain, hfunded,
    hassoc⟩
  · obtain ⟨inv₀, hinv₀, x₀, hx₀, hkey, hset⟩ := hold
    exact absurd hset (hnew inv₀ hinv₀ x₀ hx₀ hkey)
  · have hhash : main.paymentHash = h := hex_inj.mp (HoldInvoices.hex_paymentHash hmain)
    have hpair₀ : Paired actions main.paymentHash p := (hprov.holds.live _ main hmain).paired p hassoc
    refine ⟨main, hmain, (hstep.main h p hpair ha).trans hmain, hassoc, hfunded, ?_⟩
    have hfull := (reachable_runOf actions).invoiceOk hmain
    refine MainUnsettled.accepted ?_ hpair₀ (hfull.funded hfunded)
    exact (mainsUnsettled actions hd.init hc.init).live _ main hmain

end

section Sample

open Sample

attribute [local instance] Sample.deployment

/-- The client has paid both invoices of its swap. -/
def paidRun : List Action :=
  boot ++ [.request Sample.env (createswap 50000), deliver 1 paymentHash 49728000,
    deliver 2 prepayHash 272000]

theorem noClaims_paidRun : NoClaims (paidRun ++ [.callbacks Sample.env]) := by
  rintro a ha env address rfl
  simp [paidRun, boot, deliver] at ha

theorem prepay_settled_with_main_paid :
    ∃ main, (runOf paidRun World.start).getHoldInvoice paymentHash = some main ∧
      (runOf (paidRun ++ [.callbacks Sample.env]) World.start).getHoldInvoice paymentHash = some main ∧
      main.associatedInvoice = some prepayHash ∧ main.fundingStatus = .funded ∧
      main.amountMsat ≤ main.msatIn .accepted := by
  have hpair : Paired (paidRun ++ [.callbacks Sample.env]) paymentHash prepayHash :=
    ⟨.request Sample.env (createswap 50000), by simp [paidRun], by decide +kernel⟩
  have hsettled : ((runOf (paidRun ++ [.callbacks Sample.env]) World.start).getHoldInvoice
      prepayHash).any (fun inv => inv.incomingHtlcs.elems.any fun x => x.state = .settled) = true := by
    decide +kernel
  obtain ⟨prepay, hprepay, hany⟩ := (Option.any_eq_true _ _).mp hsettled
  obtain ⟨htlc, hmem, hstate⟩ := List.any_eq_true.mp hany
  refine prepay_settled_with_main paidRun (.callbacks Sample.env) (by decide +kernel)
    noClaims_paidRun (fun h => h) paymentHash prepayHash hpair prepay htlc
    ((Option.mem_def).mp hprepay) hmem (of_decide_eq_true hstate) fun inv hinv x hx _ => ?_
  have hnone : ((runOf paidRun World.start).getHoldInvoice prepayHash).all
      (fun inv => inv.incomingHtlcs.elems.all fun x => x.state ≠ .settled) = true := by
    decide +kernel
  rw [hinv] at hnone
  exact of_decide_eq_true (List.all_eq_true.mp hnone x hx)

end Sample

end SubswapProvider
