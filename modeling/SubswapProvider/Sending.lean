import SubswapProvider.Provenance

/-!
# One funding transaction for a swap

Nothing in the swap itself tells after a crash that its funding transaction has been sent:
`funding_txid` is set in memory and reaches the datastore with some later write. What does tell is
the prepay invoice. The callback of a hold invoice is called when its prepay invoice is `FUNDED`, and
by then that invoice has been settled, stored and written; it never becomes `FUNDED` again. So the
argument goes through two facts, each about every copy of the state:

* a swap is stored only when its hold invoice has the prepay invoice attached (`Claimed`),
* when the funding transaction of a swap has been sent, its prepay invoice is `SETTLED` (`Spent`).
-/

namespace SubswapProvider

open Deployment Effect

/-- The funding transaction of a swap for `h` is sent. -/
def Event.sends (h : Bytes) : Event → Bool
  | .sendpsbt swap _ _ => swap.paymentHash = h
  | _ => false

theorem Event.OfMove.sends {e : Event} (he : e.OfMove) (h : Bytes) : e.sends h = false := by
  cases e with
  | sendpsbt => exact he.elim
  | _ => rfl

/-- If it is the hold invoice of `h`, it has its prepay invoice attached. -/
def HoldInvoice.Tied (h : Bytes) (inv : HoldInvoice) : Prop :=
  inv.paymentHash = h → inv.associatedInvoice.isSome = true

/-- Some copy of the swap table has a swap for `h`, or one is watched. -/
inductive Claimed (h : Bytes) (w : World) : Prop
  | image (d : Doc) (hd : w.Image d) (hswap : d.swaps.contains (hex h) = true)
  | watched (address : Address) (ref : SwapRef) (href : w.lnwatcherCallbacks.get? address = some ref)
      (hhash : (w.heap ref).paymentHash = h)

section

variable [Deployment] {actions past : List Action} {a : Action} {w₀ w w' : World} {h p : Bytes}

omit [Deployment] in
theorem Claimed.live (hswap : w.swaps.contains (hex h) = true) : Claimed h w := by
  refine .image w.doc (.inr (.inr rfl)) ?_
  show (w.swaps.mapVals w.heap).contains (hex h) = true
  rw [Dict.contains_mapVals]
  exact hswap

omit [Deployment] in
theorem Claimed.stores {d : Doc} (hd : w.Stores d) (hswap : d.swaps.contains (hex h) = true) :
    Claimed h w :=
  .image d hd.image hswap

omit [Deployment] in
/-- What a claim says of a process with other pending changes. -/
theorem Claimed.elim {q : Prop} (hclaim : Claimed h w')
    (hstores : ∀ d, w'.Stores d → d.swaps.contains (hex h) = true → q)
    (hlive : w'.swaps.contains (hex h) = true → q)
    (hwatched : ∀ address ref, w'.lnwatcherCallbacks.get? address = some ref →
      (w'.heap ref).paymentHash = h → q) : q := by
  cases hclaim with
  | image d hd hswap =>
    rcases hd with hd | hd | rfl
    · exact hstores d (.inl hd) hswap
    · exact hstores d (.inr hd) hswap
    · apply hlive
      rw [← Dict.contains_mapVals w'.heap]
      exact hswap
  | watched address ref href hhash => exact hwatched address ref href hhash

omit [Deployment] in
theorem claimed_assign {ref : SwapRef} {f : SwapData → SwapData}
    (hf : ∀ swap, (f swap).paymentHash = swap.paymentHash) (hclaim : Claimed h (w.assign ref f)) :
    Claimed h w := by
  refine hclaim.elim (fun d hd hswap => ?_) (fun hswap => ?_) fun address ref' href hhash => ?_
  · dsimp only [World.assign] at hd
    split at hd
    · rcases World.Stores.of_patch rfl hd with hd | ⟨d₀, hd₀, hmodify⟩
      · exact .stores hd hswap
      · split at hmodify
        · cases hmodify
          rw [Dict.contains_modify] at hswap
          exact .stores hd₀ hswap
        · cases hmodify
    · exact .stores hd hswap
  · rw [World.assign_swaps] at hswap
    exact .live hswap
  · rw [World.assign_lnwatcherCallbacks] at href
    refine .watched address ref' href ?_
    rw [World.assign_heap] at hhash
    by_cases hr : ref' = ref
    · subst hr
      rw [Function.update_self, hf] at hhash
      exact hhash
    · rw [Function.update_of_ne hr] at hhash
      exact hhash

/-- A swap that `add_normal_swap` or `add_reverse_swap` has just stored. -/
def Storing (a : Action) (h : Bytes) (w : World) : Prop :=
  ∃ swap, NewSwap a swap ∧ swap.paymentHash = h ∧
    (swap.isReverse = false → HoldsNow (HoldInvoice.Tied h) w)

omit [Deployment] in
theorem tied_of_images (hw : ∀ d, w.Image d → ∀ inv, d.holdInvoices.get? (hex h) = some inv →
    inv.associatedInvoice.isSome = true) : HoldsNow (HoldInvoice.Tied h) w := by
  refine ⟨fun k inv hinv hh => ?_, fun d hd k inv hinv hh => ?_⟩
  · have hk := HoldInvoices.hex_paymentHash hinv
    rw [hh] at hk
    subst hk
    apply hw w.doc (.inr (.inr rfl)) inv.stored
    show w.holdInvoices.stored.get? (hex h) = some inv.stored
    rw [HoldInvoices.get?_stored, hinv]
    rfl
  · have hk := HoldInvoices.hex_paymentHash hinv
    rw [hh] at hk
    subst hk
    exact hw d hd.image inv hinv

/-- A new claim comes from storing a new swap. -/
theorem Move.claimed {P : SwapData → Prop} (hmove : Move a w₀ w w') (hs : SwapsThroughout P w)
    (hclaim : Claimed h w') : Claimed h w ∨ Storing a h w' := by
  cases hmove.swapChange with
  | none htables =>
    refine .inl (hclaim.elim (fun d hd hswap => ?_) (fun hswap => ?_) fun address ref href hhash => ?_)
    · obtain ⟨d₀, hd₀, heq⟩ := htables.stored d hd
      exact .image d₀ hd₀ (heq ▸ hswap)
    · rw [htables.swaps] at hswap
      exact .live hswap
    · rw [htables.lnwatcherCallbacks] at href
      rw [htables.heap] at hhash
      exact .watched address ref href hhash
  | alloc swap hnew =>
    refine .inl (hclaim.elim (fun d hd hswap => .stores hd hswap) (fun hswap => .live hswap)
      fun address ref href hhash => ?_)
    have hne : ref ≠ w.nextRef := Nat.ne_of_lt (hs.watched address ref href)
    have hheap : Function.update w.heap w.nextRef swap ref = w.heap ref :=
      Function.update_of_ne hne _ _
    refine .watched address ref href ?_
    rw [← hheap]
    exact hhash
  | store ref _ htracks =>
    have hadded : hex h = hex (w.heap ref).paymentHash → Claimed h w ∨
        Storing a h (w.setSwap (hex (w.heap ref).paymentHash) ref) := by
      intro hk
      have hh : h = (w.heap ref).paymentHash := hex_inj.mp hk
      rcases htracks with ⟨-, hnew, hbundled⟩ | ⟨⟨k, hstored⟩ | ⟨address, hwatched⟩, -⟩
      · exact .inr ⟨w.heap ref, hnew, hh.symm, fun hn =>
          (tied_of_images (hh ▸ hbundled hn)).setSwap _ ref⟩
      · refine .inl (.live (Dict.contains_iff.mpr ⟨ref, ?_⟩))
        rw [hk, ← (hs.table k ref hstored).2]
        exact hstored
      · exact .inl (.watched address ref hwatched hh.symm)
    refine hclaim.elim (fun d hd hswap => ?_) (fun hswap => ?_) fun address ref' href hhash => ?_
    · rcases World.Stores.of_patch rfl hd with hd | ⟨d₀, hd₀, hset⟩
      · exact .inl (.stores hd hswap)
      · cases hset
        rcases Dict.contains_set hswap with hk | hswap
        · exact hadded hk
        · exact .inl (.stores hd₀ hswap)
    · rcases Dict.contains_set hswap with hk | hswap
      · exact hadded hk
      · exact .inl (.live hswap)
    · refine .inl (.watched address ref' href ?_)
      by_cases hr : ref' = ref
      · subst hr
        have hself : (Function.update w.heap ref' { w.heap ref' with db := true } ref').paymentHash
          = h := hhash
        rw [Function.update_self] at hself
        exact hself
      · have hother : (Function.update w.heap ref { w.heap ref with db := true } ref').paymentHash
          = h := hhash
        rw [Function.update_of_ne hr] at hother
        exact hother
  | pop k =>
    have hkept := (Quiet.popSwap k w).toSwapsKept
    have hwatch : (w.popSwap k).lnwatcherCallbacks = w.lnwatcherCallbacks := by
      unfold World.popSwap
      split <;> rfl
    refine .inl (hclaim.elim (fun d hd hswap => ?_) (fun hswap => ?_) fun address ref href hhash => ?_)
    · unfold World.popSwap at hd
      split at hd
      · rcases World.Stores.of_patch rfl hd with hd | ⟨d₀, hd₀, hpop⟩
        · exact .stores hd hswap
        · split at hpop
          · cases hpop
            exact .stores hd₀ (Dict.contains_of_pop hswap)
          · cases hpop
      · exact .stores hd hswap
    · obtain ⟨ref, href⟩ := Dict.contains_iff.mp hswap
      exact .live (Dict.contains_iff.mpr ⟨ref, hkept.swaps _ _ href⟩)
    · rw [hkept.heap] at hhash
      exact .watched address ref (hwatch ▸ href) hhash
  | assign ref f env address ha hf => exact .inl (claimed_assign hf.paymentHash hclaim)
  | watch ref hwatch =>
    refine .inl (hclaim.elim (fun d hd hswap => .stores hd hswap) (fun hswap => .live hswap)
      fun address ref' href hhash => ?_)
    have hget := (Dict.get?_set _ _ _ _).symm.trans href
    split at hget
    · cases hget
      rcases hwatch with ⟨k, hk⟩ | ⟨-, hcontains⟩
      · refine .live (Dict.contains_iff.mpr ⟨ref, ?_⟩)
        rw [← hhash, ← (hs.table k ref hk).2]
        exact hk
      · exact .live (hhash ▸ hcontains)
    · exact .watched address ref' hget hhash
  | unwatch address =>
    exact .inl (hclaim.elim (fun d hd hswap => .stores hd hswap) (fun hswap => .live hswap)
      fun address' ref href hhash => .watched address' ref (Dict.get?_of_pop href).2 hhash)

/-! ## The prepay invoice is attached -/

/-- Whatever copy has a swap for the hash of a `createswap` has its hold invoice tied to the prepay
invoice, or has no hold invoice for it. -/
structure SwapsTied (actions : List Action) (w : World) : Prop where
  now : ∀ h p, Paired actions h p → Claimed h w → HoldsNow (HoldInvoice.Tied h) w
  views : ∀ h p, Paired actions h p → ∀ v ∈ w.views, ∀ d, v.db.disk = some d →
    d.swaps.contains (hex h) = true → ∀ k inv, d.holdInvoices.get? k = some inv → inv.Tied h

theorem SwapFrom.used {swap : SwapData} (hswap : SwapFrom actions swap) :
    Used actions swap.paymentHash := by
  cases hr : swap.isReverse with
  | false =>
    obtain ⟨p, hpair, -⟩ := hswap.normal hr
    exact hpair.used_main
  | true => exact (hswap.reverse hr).used

/-- Only what the run brought in is claimed. -/
theorem Provenance.used (hw : Provenance actions w) (hclaim : Claimed h w) : Used actions h := by
  cases hclaim with
  | image d hd hswap =>
    obtain ⟨swap, hget⟩ := Dict.contains_iff.mp hswap
    obtain ⟨hk, hfrom⟩ := hw.swaps.image hd hget
    rw [hex_inj.mp hk]
    exact hfrom.used
  | watched address ref href hhash =>
    rw [← hhash]
    exact (hw.swaps.live ref (hw.swaps.watched address ref href)).used

theorem SwapsTied.append (hd : DistinctHashes (past ++ [a])) (hprov : Provenance past w)
    (hw : SwapsTied past w) : SwapsTied (past ++ [a]) w := by
  refine ⟨fun h p hpair hclaim => ?_, fun h p hpair v hv d hdisk hswap => ?_⟩
  · rcases hpair.of_append with hpair | hnew
    · exact hw.now h p hpair hclaim
    · exact absurd (hprov.used hclaim) (hd.fresh (Action.main_mem hnew))
  · rcases hpair.of_append with hpair | hnew
    · exact hw.views h p hpair v hv d hdisk hswap
    · obtain ⟨swap, hget⟩ := Dict.contains_iff.mp hswap
      obtain ⟨hk, hfrom⟩ := hprov.swaps.views v hv d hdisk _ swap hget
      exact absurd (hex_inj.mp hk ▸ hfrom.used) (hd.fresh (Action.main_mem hnew))

theorem SwapsTied.move (hd : DistinctHashes (past ++ [a])) (hw₀ : Provenance past w₀)
    (hmove : Move a w₀ w w') (hprov : Provenance (past ++ [a]) w)
    (hw : SwapsTied (past ++ [a]) w) : SwapsTied (past ++ [a]) w' := by
  have hnow : ∀ h p, Paired (past ++ [a]) h p → Claimed h w' → HoldsNow (HoldInvoice.Tied h) w' := by
    intro h p hpair hclaim
    rcases hmove.claimed hprov.swaps hclaim with hclaim | ⟨swap, hnew, hhash, htied⟩
    · refine (hw.now h p hpair hclaim).move hmove (fun inv hinv => hinv) (fun inv hfresh hfirst hh => ?_)
        fun k inv inv' _ hal hinv hh => ?_
      · rcases hfirst with rfl | ⟨main, hmain⟩
        · exact absurd (hh ▸ hw₀.used hclaim) (hd.fresh hfresh.hash)
        · exact (hd.prepay_ne_main (.new (hh ▸ hmain)) hpair).elim
      · rw [hal.paymentHash] at hh
        rcases hal.associated with heq | ⟨q, hq, -⟩
        · rw [heq]
          exact hinv hh
        · rw [hq]
          rfl
    · cases hr : swap.isReverse with
      | false => exact htied hr
      | true => exact (hd.main_ne_reverse hpair (.new (hhash ▸ (hnew.reverse hr).1))).elim
  refine ⟨hnow, fun h p hpair v hv d hdisk hswap => ?_⟩
  rcases hmove.told.newView hv with hv | ⟨heq, -⟩
  · exact hw.views h p hpair v hv d hdisk hswap
  · have hstores : w'.Stores d := .inl (heq ▸ hdisk)
    exact (hnow h p hpair (.stores hstores hswap)).stored d hstores

theorem SwapsTied.say (e : Event) (hw : SwapsTied actions w) : SwapsTied actions (w.say e) := by
  have hclaim : ∀ {h}, Claimed h (w.say e) → Claimed h w := fun hclaim =>
    hclaim.elim (fun d hd hswap => .stores hd hswap) (fun hswap => .live hswap)
      fun address ref href hhash => .watched address ref href hhash
  refine ⟨fun h p hpair hc => ?_, fun h p hpair v hv d hdisk hswap => ?_⟩
  · have hnow := hw.now h p hpair (hclaim hc)
    exact ⟨hnow.live, hnow.stored⟩
  · rcases List.mem_cons.mp hv with rfl | hv
    · have hstores : w.Stores d := .inl hdisk
      exact (hw.now h p hpair (.stores hstores hswap)).stored d hstores
    · exact hw.views h p hpair v hv d hdisk hswap

theorem SwapsTied.assign (ref : SwapRef) (f : SwapData → SwapData)
    (hf : ∀ swap, (f swap).paymentHash = swap.paymentHash) (hw : SwapsTied actions w) :
    SwapsTied actions (w.assign ref f) where
  now h p hpair hclaim := (hw.now h p hpair (claimed_assign hf hclaim)).assign ref f
  views := by
    rw [(Recorded.assign w ref f).views]
    exact hw.views

theorem SwapsTied.restart (env : Env) {view : View}
    (hview : view = ⟨w.db, w.trace⟩ ∨ view ∈ w.views) (hw : SwapsTied actions w) :
    SwapsTied actions (w.restart env view) := by
  have hdisk : ∀ h p, Paired actions h p → ∀ d, view.db.disk = some d →
      d.swaps.contains (hex h) = true → ∀ k inv, d.holdInvoices.get? k = some inv → inv.Tied h := by
    intro h p hpair d hd hswap
    rcases hview with rfl | hview
    · exact (hw.now h p hpair (.stores (.inl hd) hswap)).stored d (.inl hd)
    · exact hw.views h p hpair view hview d hd hswap
  cases hload : view.db.load with
  | none =>
    unfold World.restart
    rw [hload]
    exact hw
  | some d =>
    have hd : view.db.disk = some d := by
      unfold Db.load at hload
      split at hload
      · cases hload
      · exact hload
    refine ⟨fun h p hpair hclaim => ?_, fun h p hpair v hv d' hd' hswap => ?_⟩
    · have hswap : d.swaps.contains (hex h) = true := by
        refine hclaim.elim (fun d' hd' hswap => ?_) (fun hswap => ?_) fun address ref href _ => ?_
        · have hd' := hd'.of_restart hload
          rw [hd] at hd'
          cases hd'
          exact hswap
        · unfold World.restart at hswap
          rw [hload] at hswap
          obtain ⟨ref, href⟩ := Dict.contains_iff.mp hswap
          obtain ⟨swap, hitem⟩ := Dict.getElem?_of_enumerate href
          exact Dict.contains_iff.mpr ⟨swap, Dict.get?_of_mem (List.mem_of_getElem? hitem)⟩
        · unfold World.restart at href
          rw [hload] at href
          cases href
      refine ⟨fun k inv hinv => ?_, fun d' hd' => ?_⟩
      · unfold World.restart at hinv
        rw [hload] at hinv
        exact hdisk h p hpair d hd hswap k inv hinv
      · have hd' := hd'.of_restart hload
        rw [hd] at hd'
        cases hd'
        exact hdisk h p hpair d hd hswap
    · unfold World.restart at hv
      rw [hload] at hv
      cases List.mem_singleton.mp hv
      exact hdisk h p hpair d' hd' hswap

/-! ## The prepay invoice is spent -/

/-- The funding transaction of a swap for `h` has been sent. -/
def SentFor (said : List Event) (h : Bytes) : Prop := ∃ e ∈ said, e.sends h = true

/-- If it is the prepay invoice of a swap whose funding transaction has been sent, it is settled. -/
def Spent (actions : List Action) (said : List Event) (inv : HoldInvoice) : Prop :=
  ∀ h, SentFor said h → Paired actions h inv.paymentHash → inv.fundingStatus = .settled

/-- One funding transaction for each swap, and for swaps of the run. -/
structure SendsOnce (actions : List Action) (said : List Event) : Prop where
  once : ∀ h, said.countP (Event.sends h) ≤ 1
  paired : ∀ h, SentFor said h → ∃ p, Paired actions h p

omit [Deployment] in
theorem sentFor_cons {e : Event} {said : List Event} :
    SentFor (e :: said) h ↔ e.sends h = true ∨ SentFor said h := by
  unfold SentFor
  simp

omit [Deployment] in
theorem sentFor_move {e : Event} (he : e.OfMove) {said : List Event} :
    SentFor (e :: said) h ↔ SentFor said h := by
  rw [sentFor_cons, he.sends h]
  simp

omit [Deployment] in
theorem Told.sentFor (ht : Told w w') : SentFor w'.trace h ↔ SentFor w.trace h := by
  rcases ht.log with heq | ⟨e, he, heq⟩
  · rw [heq]
  · rw [heq, sentFor_move he]

/-- Between two points of a callback the moves send nothing. -/
theorem sentFor_path (hpath : Relation.ReflTransGen (Move a w₀) w w') :
    SentFor w'.trace h ↔ SentFor w.trace h := by
  induction hpath with
  | refl => exact Iff.rfl
  | tail _ hmove ih => exact hmove.told.sentFor.trans ih

theorem SendsOnce.append {said : List Event} (hs : SendsOnce past said) :
    SendsOnce (past ++ [a]) said := by
  refine ⟨hs.once, fun h hsent => ?_⟩
  obtain ⟨p, hpair⟩ := hs.paired h hsent
  exact ⟨p, hpair.append⟩

theorem SendsOnce.told (ht : Told w w') (hs : SendsOnce actions w.trace) :
    SendsOnce actions w'.trace := by
  refine ⟨fun h => ?_, fun h hsent => hs.paired h (ht.sentFor.mp hsent)⟩
  rcases ht.log with heq | ⟨e, he, heq⟩
  · rw [heq]
    exact hs.once h
  · rw [heq, List.countP_cons, he.sends h]
    simpa using hs.once h

/-- A settled invoice stays settled. -/
theorem Alters.settled {k : Hex} {inv inv' : HoldInvoice} (hal : Alters a w k inv inv')
    (hinv : inv.fundingStatus = .settled) : inv'.fundingStatus = .settled := by
  cases hal with
  | fund request ha hfull hstatus =>
    rw [hinv] at hstatus
    cases hstatus
  | fail env ha hstatus => exact absurd hinv hstatus.2
  | settle => rfl
  | _ => exact hinv

/-- The state of a run, `past` being the actions whose swaps can have been funded. -/
structure Sending (past actions : List Action) (w : World) : Prop where
  prov : Provenance actions w
  tied : SwapsTied actions w
  spent : HoldsThroughout (Spent actions) w
  log : SendsOnce past w.trace
  views : ∀ v ∈ w.views, SendsOnce past v.said

/-- In the state a step starts from. -/
theorem Sending.append (hd : DistinctHashes (past ++ [a])) (hw : Sending past past w) :
    Sending past (past ++ [a]) w := by
  have hspent : ∀ said inv, SendsOnce past said → Spent past said inv →
      Spent (past ++ [a]) said inv := by
    intro said inv hsaid hinv h hsent hpair
    rcases hpair.of_append with hpair | hnew
    · exact hinv h hsent hpair
    · obtain ⟨p, hp⟩ := hsaid.paired h hsent
      exact absurd hp.used_main (hd.fresh (Action.main_mem hnew))
  refine ⟨hw.prov.append, hw.tied.append hd hw.prov, ⟨?_, fun v hv d hdisk k inv hinv => ?_⟩, hw.log,
    hw.views⟩
  · exact hw.spent.toHoldsNow.mono fun inv => hspent _ inv hw.log
  · exact hspent _ inv (hw.views v hv) (hw.spent.views v hv d hdisk k inv hinv)

theorem Sending.move (hd : DistinctHashes (past ++ [a])) (hw₀ : Provenance past w₀)
    (hmove : Move a w₀ w w') (hw : Sending past (past ++ [a]) w) : Sending past (past ++ [a]) w' where
  prov := (survives_provenance w₀).move w w' hmove hw.prov
  tied := hw.tied.move hd hw₀ hmove hw.prov
  spent := by
    refine hw.spent.move hmove (fun _ _ hinv => hinv)
      (fun inv hinv h hsent => hinv h (hmove.told.sentFor.mp hsent))
      (fun inv hfresh _ h hsent hpair => ?_) fun k inv inv' _ hal hinv h hsent hpair => ?_
    · -- the swap has been funded, so its `createswap` is an earlier one
      obtain ⟨p, hp⟩ := hw.log.paired h hsent
      have heq : p = inv.paymentHash := hd.prepay_unique hp.append hpair
      exact absurd hp.used_prepay (hd.fresh (heq ▸ hfresh.hash))
    · rw [hal.paymentHash] at hpair
      exact hal.settled (hinv h hsent hpair)
  log := hw.log.told hmove.told
  views v hv := by
    rcases hmove.told.newView hv with hv | ⟨-, hsaid⟩
    · exact hw.views v hv
    · rw [hsaid]
      exact hw.log.told hmove.told

theorem Sending.restart (env : Env) {view : View}
    (hview : view = ⟨w.db, w.trace⟩ ∨ view ∈ w.views) (hw : Sending past actions w) :
    Sending past actions (w.restart env view) := by
  have hsaid : SendsOnce past view.said := by
    rcases hview with rfl | hview
    · exact hw.log
    · exact hw.views view hview
  refine ⟨⟨hw.prov.holds.restart env hview, hw.prov.swaps.restart env hview fun _ hswap =>
    ⟨hswap.normal, hswap.reverse⟩⟩, hw.tied.restart env hview, hw.spent.restart env hview, ?_, ?_⟩
  · unfold World.restart
    split
    · exact hw.log
    · exact hsaid
  · unfold World.restart
    split
    · exact hw.views
    · intro v hv
      cases List.mem_singleton.mp hv
      exact hsaid

theorem Sending.create (ref : SwapRef) (hw : Sending past actions w) :
    Sending past actions (w.createFunding ref) := by
  let e : Event := .createFundingTx (w.heap ref).paymentHash (w.heap ref) w.holdInvoices
  have hsent : ∀ {h}, SentFor (e :: w.trace) h → SentFor w.trace h := by
    intro h hsent
    rcases sentFor_cons.mp hsent with he | hsent
    · cases he
    · exact hsent
  have hlog : SendsOnce past (e :: w.trace) := by
    refine ⟨fun h => ?_, fun h h' => hw.log.paired h (hsent h')⟩
    rw [List.countP_cons]
    exact hw.log.once h
  refine ⟨⟨hw.prov.holds.say _ hw.prov.holds.toHoldsNow, hw.prov.swaps.say _⟩, hw.tied.say _,
    hw.spent.say _ (hw.spent.toHoldsNow.mono fun inv hinv h h' => hinv h (hsent h')), hlog,
    fun v hv => ?_⟩
  rcases List.mem_cons.mp hv with rfl | hv
  · exact hlog
  · exact hw.views v hv

/-- What is known of a hold invoice whose callback is about to send the funding transaction. -/
structure Ready (past : List Action) (w : World) (h p : Bytes) : Prop where
  paired : Paired past h p
  unsent : ¬ SentFor w.trace h
  settled : HoldsNow (fun inv => inv.paymentHash = p → inv.fundingStatus = .settled) w

theorem Ready.create (ref : SwapRef) (hready : Ready past w h p) :
    Ready past (w.createFunding ref) h p := by
  refine ⟨hready.paired, fun hsent => ?_, hready.settled.live, hready.settled.stored⟩
  rcases sentFor_cons.mp hsent with he | hsent
  · cases he
  · exact hready.unsent hsent

omit [Deployment] in
theorem settled_of_images (hw : ∀ d, w.Image d →
      ∃ prepay, d.holdInvoices.get? (hex p) = some prepay ∧ prepay.fundingStatus = .settled) :
    HoldsNow (fun inv => inv.paymentHash = p → inv.fundingStatus = .settled) w := by
  refine ⟨fun k inv hinv hp => ?_, fun d hd k inv hinv hp => ?_⟩
  · have hk := HoldInvoices.hex_paymentHash hinv
    rw [hp] at hk
    subst hk
    obtain ⟨prepay, hprepay, hsettled⟩ := hw w.doc (.inr (.inr rfl))
    have hget := (HoldInvoices.get?_stored w.holdInvoices (hex p)).symm.trans hprepay
    rw [hinv] at hget
    cases hget
    exact hsettled
  · have hk := HoldInvoices.hex_paymentHash hinv
    rw [hp] at hk
    subst hk
    obtain ⟨prepay, hprepay, hsettled⟩ := hw d hd.image
    rw [hinv] at hprepay
    cases hprepay
    exact hsettled

/-- The hold invoice of a stored swap whose callback is due has its prepay invoice attached. -/
theorem Sending.attached {w₁ : World} {main : HoldInvoice} {ref : SwapRef}
    (hw₁ : Sending past (past ++ [a]) w₁) (hd : DistinctHashes (past ++ [a])) (hdue : Due w₀ w₁ main)
    (hprepared : Prepared a w₀ w₁ w main)
    (href : w.swaps.get? (hex main.paymentHash) = some ref) :
    ∃ p, main.associatedInvoice = some p ∧ Paired (past ++ [a]) main.paymentHash p := by
  have href₁ : w₁.swaps.get? (hex main.paymentHash) = some ref := hprepared.same.swaps ▸ href
  obtain ⟨hlt, hkey⟩ := hw₁.prov.swaps.table _ ref href₁
  have hhash : (w₁.heap ref).paymentHash = main.paymentHash := (hex_inj.mp hkey).symm
  have hfrom := hw₁.prov.swaps.live ref hlt
  have hmain := hw₁.prov.holds.live _ main hdue.stored
  obtain ⟨q, hq, -⟩ := hfrom.normal (hd.normal_of_hold hmain hfrom hhash)
  rw [hhash] at hq
  have hclaim : Claimed main.paymentHash w₁ := .live (Dict.contains_iff.mpr ⟨ref, href₁⟩)
  have htied := (hw₁.tied.now _ q hq hclaim).live _ main hdue.stored rfl
  obtain ⟨p, hp⟩ := Option.isSome_iff_exists.mp htied
  exact ⟨p, hp, hmain.paired p hp⟩

/-- The callback of a hold invoice is only called with the prepay invoice paid, and then settles it:
it had not been called before. -/
theorem Sending.ready {w₁ : World} {main : HoldInvoice} {ref : SwapRef}
    (hw₁ : Sending past (past ++ [a]) w₁) (hd : DistinctHashes (past ++ [a])) (hdue : Due w₀ w₁ main)
    (hprepared : Prepared a w₀ w₁ w main)
    (href : w.swaps.get? (hex main.paymentHash) = some ref) :
    ∃ p, Ready past w main.paymentHash p := by
  obtain ⟨p, hp, hpair⟩ := hw₁.attached hd hdue hprepared href
  obtain ⟨env, rfl⟩ := hprepared.pass
  refine ⟨p, ?_, fun hsent => ?_, settled_of_images (hprepared.settled p hp)⟩
  · rcases hpair.of_append with hpair | hnew
    · exact hpair
    · cases hnew
  · -- the prepay invoice was funded when the pass came to the invoice
    obtain ⟨prepay, hprepay, hfunded⟩ := hdue.prepaid p hp
    have hhash' : prepay.paymentHash = p := hex_inj.mp (HoldInvoices.hex_paymentHash hprepay)
    have hsettled := hw₁.spent.live _ prepay hprepay main.paymentHash
      ((sentFor_path hprepared.path).mp hsent) (hhash' ▸ hpair)
    rw [hfunded] at hsettled
    cases hsettled

theorem Sending.send {ref : SwapRef} {tx : FundingTx} (hd : DistinctHashes (past ++ [a]))
    (hready : Ready past w h p) (hhash : (w.heap ref).paymentHash = h)
    (hw : Sending past (past ++ [a]) w) : Sending past (past ++ [a]) (w.send ref tx) := by
  have hpair : Paired (past ++ [a]) h p := hready.paired.append
  have hsent : ∀ {swap stored h'}, swap.paymentHash = (w.heap ref).paymentHash →
      SentFor (.sendpsbt swap stored tx :: w.trace) h' → h' = h ∨ SentFor w.trace h' := by
    intro swap stored h' hswap hsent
    rcases sentFor_cons.mp hsent with he | hsent
    · have heq : swap.paymentHash = h' := of_decide_eq_true he
      exact .inl (by rw [← heq, hswap, hhash])
    · exact .inr hsent
  have hlog : SendsOnce past (w.send ref tx).trace := by
    show SendsOnce past (_ :: (w.assign ref _).trace)
    rw [World.assign_trace]
    have hswap : ((w.assign ref fun swap => { swap with fundingTxid := some tx.txid }).heap
        ref).paymentHash = (w.heap ref).paymentHash := by
      rw [World.assign_heap_self]
    refine ⟨fun h' => ?_, fun h' h'' => ?_⟩
    · rw [List.countP_cons]
      split
      · next he =>
        have heq : h' = h := by
          have heq := of_decide_eq_true he
          rw [← heq, hswap, hhash]
        have hzero : w.trace.countP (Event.sends h') = 0 := by
          rw [List.countP_eq_zero]
          intro e he' hs
          exact hready.unsent ⟨e, he', heq ▸ hs⟩
        rw [hzero]
      · exact hw.log.once h'
    · rcases hsent hswap h'' with rfl | h''
      · exact ⟨p, hready.paired⟩
      · exact hw.log.paired h' h''
  have htied := hw.tied.assign ref (fun swap => { swap with fundingTxid := some tx.txid })
    fun _ => rfl
  refine ⟨?_, htied.say _, ?_, hlog, fun v hv => ?_⟩
  · exact ⟨hw.prov.holds.send ref tx fun _ _ _ => hw.prov.holds.toHoldsNow,
      hw.prov.swaps.send ref tx fun _ hswap => ⟨hswap.normal, hswap.reverse⟩⟩
  · refine hw.spent.send ref tx fun swap stored hswap => ?_
    refine ⟨fun k inv hinv h' h'' hp' => ?_, fun d hdoc k inv hinv h' h'' hp' => ?_⟩
    · rcases hsent hswap h'' with rfl | h''
      · exact hready.settled.live k inv hinv (hd.prepay_unique hp' hpair)
      · exact hw.spent.live k inv hinv h' h'' hp'
    · rcases hsent hswap h'' with rfl | h''
      · exact hready.settled.stored d hdoc k inv hinv (hd.prepay_unique hp' hpair)
      · exact hw.spent.stored d hdoc k inv hinv h' h'' hp'
  · rcases List.mem_cons.mp hv with rfl | hv
    · exact hlog
    · rw [(Recorded.assign w ref _).views] at hv
      exact hw.views v hv

/-! ## The run -/

theorem survives_sending (hd : DistinctHashes (past ++ [a])) (hw₀ : Provenance past w₀) :
    Survives a w₀ (Sending past (past ++ [a])) where
  move _ _ hmove hw := hw.move hd hw₀ hmove
  restart env _ _ hview hw := hw.restart env hview
  create _ _ _ ref _ _ _ hw _ _ := hw.create ref
  send w₁ w main ref tx hw₁ hdue hprepared hw href _ := by
    have hhash : ((w.createFunding ref).heap ref).paymentHash = main.paymentHash :=
      (hex_inj.mp (hw.prov.swaps.table _ ref href).2).symm
    obtain ⟨p, hready⟩ := hw₁.ready hd hdue hprepared href
    exact hw.send hd (hready.create ref) hhash

theorem sending_start : Sending [] [] World.start where
  prov := provenance_start
  tied := by
    refine ⟨fun h p hpair => ?_, fun h p hpair => ?_⟩
    · obtain ⟨a, ha, -⟩ := hpair
      cases ha
    · obtain ⟨a, ha, -⟩ := hpair
      cases ha
  spent := .start
  log := ⟨fun h => Nat.zero_le 1, fun h ⟨e, he, _⟩ => nomatch he⟩
  views v hv := by
    cases List.mem_singleton.mp hv
    exact ⟨fun h => Nat.zero_le 1, fun h ⟨e, he, _⟩ => nomatch he⟩

theorem sending (actions : List Action) (hd : DistinctHashes actions) :
    Sending actions actions (runOf actions World.start) := by
  refine runOf_induction (I := fun past w => Sending past past w) sending_start
    (fun past a w _ hd hw => ?_) actions hd
  have hstep := step_invariant (survives_sending hd hw.prov) (hw.append hd)
  exact ⟨hstep.prov, hstep.tied, hstep.spent, hstep.log.append, fun v hv => (hstep.views v hv).append⟩

/-- **At most one funding transaction is sent for a swap**, whatever crashes and restarts come in
between. -/
theorem one_funding_tx (actions : List Action) (hd : DistinctHashes actions) (h : Bytes) :
    (runOf actions World.start).trace.countP (Event.sends h) ≤ 1 :=
  (sending actions hd).log.once h

end

section Sample

open Sample

attribute [local instance] Sample.deployment

/-- The process ends right after it has sent the funding transaction, and starts again: it takes the
swap for unfunded, and has its callback registered. -/
def interruptedRun : List Action :=
  fundedRun ++ [.crash Sample.env 0, .initSwapManager, .mainLoop, .callbacks Sample.env]

theorem one_funding_tx_interrupted :
    (runOf interruptedRun World.start).trace.countP (Event.sends paymentHash) ≤ 1 ∧
      (runOf interruptedRun World.start).holdInvoiceCallbacks.contains (hex paymentHash) = true ∧
      ((runOf interruptedRun World.start).swap? (hex paymentHash)).any
        (fun swap => swap.fundingTxid = none) = true :=
  ⟨one_funding_tx interruptedRun (by decide +kernel) paymentHash, by decide +kernel, by decide +kernel⟩

end Sample

end SubswapProvider
