import SubswapProvider.Tallying

/-!
# Settling and cancelling in two calls

`settle` and `cancel_all_htlcs` answer the accepted HTLCs of an invoice one after another, and an
HTLC without a callback stops them in between. Its state has not been changed by then, and the state
of each HTLC before it has: once the missing callbacks are there the same call goes on where the
first one stopped (`resolution_resumes`).
-/

namespace SubswapProvider

open Deployment Effect

/-! ## What an HTLC is answered -/

/-- The results that the hook calls about one HTLC get in a stretch of the log. -/
def resultsOf (κ : HtlcKey) (t : List Event) : List HookResult :=
  t.filterMap fun e =>
    match e with
    | .answer request res => if request.htlc.key = κ then some res else none
    | _ => none

@[simp] theorem resultsOf_nil (κ : HtlcKey) : resultsOf κ [] = [] := rfl

@[simp] theorem resultsOf_append (κ : HtlcKey) (t t' : List Event) :
    resultsOf κ (t ++ t') = resultsOf κ t ++ resultsOf κ t' := List.filterMap_append

@[simp] theorem resultsOf_answer (κ : HtlcKey) (request : Request) (res : HookResult) (t : List Event) :
    resultsOf κ (.answer request res :: t) =
      if request.htlc.key = κ then res :: resultsOf κ t else resultsOf κ t := by
  unfold resultsOf
  by_cases h : request.htlc.key = κ
  · rw [if_pos h]
    exact List.filterMap_cons_some (if_pos h)
  · rw [if_neg h]
    exact List.filterMap_cons_none (if_neg h)

@[simp] theorem resultsOf_settled (κ : HtlcKey) (payment_hash preimage : Bytes) (t : List Event) :
    resultsOf κ (.settled payment_hash preimage :: t) = resultsOf κ t := rfl

/-- Some HTLC of the list, with this key, is accepted. -/
def accepts (κ : HtlcKey) (l : List Htlc) : Bool := l.any fun h => h.key = κ ∧ h.state = .accepted

theorem accepts_iff {κ : HtlcKey} {l : List Htlc} :
    accepts κ l = true ↔ ∃ h ∈ l, h.key = κ ∧ h.state = .accepted := by
  unfold accepts
  simp

theorem accepts_append (κ : HtlcKey) (l l' : List Htlc) :
    accepts κ (l ++ l') = (accepts κ l || accepts κ l') := List.any_append

theorem accepts_cons (κ : HtlcKey) (h : Htlc) (l : List Htlc) :
    accepts κ (h :: l) = (decide (h.key = κ ∧ h.state = .accepted) || accepts κ l) := rfl

/-- The HTLC with this key is the only one of the list. -/
theorem accepts_eq {h : Htlc} {l : List Htlc} (hnodup : (l.map Htlc.key).Nodup) (hl : h ∈ l) :
    accepts h.key l = decide (h.state = .accepted) := by
  apply Bool.eq_iff_iff.mpr
  rw [accepts_iff, decide_eq_true_iff]
  constructor
  · rintro ⟨a, ha, hkey, hacc⟩
    rw [← List.inj_on_of_nodup_map hnodup ha hl hkey]
    exact hacc
  · intro hacc
    exact ⟨h, hl, rfl, hacc⟩

theorem accepts_of_notMem {κ : HtlcKey} {l : List Htlc} (h : κ ∉ l.map Htlc.key) :
    accepts κ l = false := by
  apply Bool.eq_false_iff.mpr
  rw [ne_eq, accepts_iff]
  rintro ⟨a, ha, rfl, -⟩
  exact h (List.mem_map_of_mem ha)

/-! ## One call -/

/-- An accepted HTLC gets the state, another one stays. -/
def Htlc.resolveTo (st : HtlcState) (h : Htlc) : Htlc :=
  if h.state = .accepted then { h with state := st } else h

theorem Htlc.key_resolveTo (st : HtlcState) (h : Htlc) : (h.resolveTo st).key = h.key := by
  unfold Htlc.resolveTo
  split <;> rfl

theorem Htlc.state_resolveTo {st : HtlcState} (hst : st ≠ .accepted) (h : Htlc) :
    (h.resolveTo st).state ≠ .accepted := by
  unfold Htlc.resolveTo
  split
  · exact hst
  · assumption

theorem accepts_resolveTo {st : HtlcState} (hst : st ≠ .accepted) (κ : HtlcKey) (l : List Htlc) :
    accepts κ (l.map (Htlc.resolveTo st)) = false := by
  apply Bool.eq_false_iff.mpr
  rw [ne_eq, accepts_iff]
  rintro ⟨a, ha, -, hacc⟩
  obtain ⟨b, -, rfl⟩ := List.mem_map.mp ha
  exact Htlc.state_resolveTo hst b hacc

/-- The loop has answered the accepted HTLCs of `done` and has not come to those of `rest`. -/
structure World.Reached (w w' : World) (st : HtlcState) (res : HookResult) (done rest : List Htlc) :
    Prop where
  left : w.resolved st (done ++ rest) = done.map (Htlc.resolveTo st) ++ rest
  said : ∃ said, w'.trace = said ++ w.trace ∧
    ∀ κ, resultsOf κ said = if accepts κ done then [res] else []

section

variable {w w' : World} {st : HtlcState} {res : HookResult} {k : Hex} {inv : HoldInvoice}

/-- **How far the loop gets** that a missing callback has stopped, or nothing. -/
theorem resolveAll_reached (k : Hex) (st : HtlcState) (res : HookResult) {l : List Htlc}
    (hnodup : (l.map Htlc.key).Nodup)
    (hrequests : ∀ h ∈ l, ∀ r, h.requestCallback = some r → r.htlc.key = h.key)
    (hrun : (l.forM fun h => if h.state = .accepted then resolveHtlc k h st res else pure ()) w
        = .ok () w' ∨
      (l.forM fun h => if h.state = .accepted then resolveHtlc k h st res else pure ()) w
        = .error .AssertionError w') :
    ∃ done rest, l = done ++ rest ∧ w.Reached w' st res done rest ∧
      ((l.forM fun h => if h.state = .accepted then resolveHtlc k h st res else pure ()) w
        = .ok () w' → rest = []) := by
  induction l generalizing w with
  | nil =>
    have hw : w' = w := by
      rcases hrun with hrun | hrun
      · cases hrun
        rfl
      · cases hrun
    exact ⟨[], [], rfl, ⟨rfl, [], by rw [hw]; rfl, fun _ => rfl⟩, fun _ => rfl⟩
  | cons h l ih =>
    rw [List.map_cons, List.nodup_cons] at hnodup
    have ih := fun (s : World) => ih (w := s) hnodup.2 fun a ha => hrequests a (List.mem_cons_of_mem h ha)
    have hstep : ∀ r, (h :: l).forM (fun h => if h.state = .accepted then resolveHtlc k h st res
          else pure ()) w = r ↔
        ((if h.state = .accepted then resolveHtlc k h st res else pure ()) >>= fun _ =>
          l.forM fun h => if h.state = .accepted then resolveHtlc k h st res else pure ()) w = r :=
      fun _ => Iff.rfl
    simp only [hstep] at hrun ⊢
    by_cases hacc : h.state = .accepted
    · rw [if_pos hacc] at hrun ⊢
      by_cases hopen : w.Open h
      · obtain ⟨request, hrequest, hnot⟩ := hopen
        have hone := resolveHtlc_open k st res hacc hrequest hnot
        generalize hs : (w.mutHoldInvoice k (·.setHtlcState h.key st) fun _ => rfl).say
          (.answer request res) = s at hone
        have htrace : s.trace = .answer request res :: w.trace := by rw [← hs]; rfl
        rw [bind_ok hone] at hrun ⊢
        obtain ⟨done, rest, rfl, hreached, hrest⟩ := ih s hrun
        obtain ⟨said, hsaid, hresults⟩ := hreached.said
        have hkey : request.htlc.key = h.key := hrequests h List.mem_cons_self request hrequest
        refine ⟨h :: done, rest, rfl, ⟨?_, said ++ [.answer request res], ?_, fun κ => ?_⟩, hrest⟩
        · have hsame : ∀ a ∈ done ++ rest, (s.Open a ↔ w.Open a) := by
            intro a ha
            apply World.open_iff_of_answer htrace
            rintro r hr rfl
            have hown := hrequests a (List.mem_cons_of_mem h ha) r hr
            exact hnodup.1 ((hkey.symm.trans hown) ▸ List.mem_map_of_mem ha)
          have hleft := hreached.left
          rw [World.resolved_congr hsame] at hleft
          rw [List.cons_append, World.resolved, if_neg (not_not.mpr hacc),
            if_pos ⟨request, hrequest, hnot⟩, hleft, List.map_cons, Htlc.resolveTo, if_pos hacc]
          rfl
        · rw [hsaid, htrace, List.append_assoc]
          rfl
        · rw [resultsOf_append, hresults, resultsOf_answer, resultsOf_nil, hkey, accepts_cons]
          by_cases hκ : h.key = κ
          · have hnone : accepts κ done = false := by
              apply accepts_of_notMem
              rw [← hκ]
              intro hmem
              apply hnodup.1
              rw [List.map_append]
              exact List.mem_append_left _ hmem
            simp [hκ, hacc, hnone]
          · simp [hκ]
      · cases hrequest : h.requestCallback with
        | none =>
          have hone : resolveHtlc k h st res w = .error .AssertionError w := by
            unfold resolveHtlc
            rw [if_pos hacc, hrequest]
            rfl
          rw [bind_error hone] at hrun ⊢
          have hw : w' = w := by
            rcases hrun with hrun | hrun
            · cases hrun
            · cases hrun
              rfl
          refine ⟨[], h :: l, rfl, ⟨?_, [], by rw [hw]; rfl, fun _ => rfl⟩, fun hok => nomatch hok⟩
          rw [List.nil_append, World.resolved, if_neg (not_not.mpr hacc), if_neg hopen, if_pos hrequest]
          rfl
        | some request =>
          -- the callback has been used before: `set_result` raises, and not for want of a callback
          exfalso
          have hanswered : (w.mutHoldInvoice k (·.setHtlcState h.key st)
              fun _ => rfl).Answered request := by
            by_contra hnot
            exact hopen ⟨request, hrequest, hnot⟩
          obtain ⟨s, hs⟩ : ∃ s, setResult request res _ = .error .ValueError s :=
            setResult_answered hanswered
          have hone : resolveHtlc k h st res w = .error .ValueError s :=
            (resolveHtlc_run hacc hrequest).trans hs
          rw [bind_error hone] at hrun
          rcases hrun with hrun | hrun <;> cases hrun
    · rw [if_neg hacc, pure_bind] at hrun ⊢
      obtain ⟨done, rest, rfl, hreached, hrest⟩ := ih w hrun
      obtain ⟨said, hsaid, hresults⟩ := hreached.said
      refine ⟨h :: done, rest, rfl, ⟨?_, said, hsaid, fun κ => ?_⟩, hrest⟩
      · rw [List.cons_append, World.resolved, if_pos hacc, hreached.left, List.map_cons,
          Htlc.resolveTo, if_neg hacc]
        rfl
      · rw [hresults, accepts_cons]
        simp [hacc]

end

/-- The two calls that answer every accepted HTLC of an invoice. -/
inductive Resolution
  | settle (preimage : Bytes)
  | cancelAllHtlcs

namespace Resolution

/-- What becomes of an HTLC. -/
def state : Resolution → HtlcState
  | .settle _ => .settled
  | .cancelAllHtlcs => .cancelled

/-- What its hook call gets. -/
def result : Resolution → HookResult
  | .settle preimage => .resolve preimage
  | .cancelAllHtlcs => .fail "400F"

/-- What becomes of the invoice. -/
def status : Resolution → InvoiceState
  | .settle _ => .settled
  | .cancelAllHtlcs => .failed

/-- The call. -/
def run [Deployment] (op : Resolution) (inv : HoldInvoice) : PyM Unit :=
  match op with
  | .settle preimage => settleInvoice inv (some preimage)
  | .cancelAllHtlcs => SubswapProvider.cancelAllHtlcs inv

/-- `settle` is called with the matching preimage, on a fully funded invoice. -/
def Applies [Deployment] (op : Resolution) (inv : HoldInvoice) : Prop :=
  match op with
  | .settle preimage => inv.paymentHash = sha256 preimage ∧ inv.isFullyFunded = true
  | .cancelAllHtlcs => True

/-- What the call does when each HTLC has been answered. -/
def conclude (op : Resolution) (inv : HoldInvoice) (w : World) : World :=
  let w := w.mutHoldInvoice (hex inv.paymentHash) (·.setFundingStatus op.status) fun _ => rfl
  match op with
  | .settle preimage => w.say (.settled inv.paymentHash preimage)
  | .cancelAllHtlcs => w

theorem state_ne (op : Resolution) : op.state ≠ .accepted := by
  cases op <;> nofun

theorem run_eq [Deployment] {op : Resolution} {inv : HoldInvoice} (h : op.Applies inv) :
    op.run inv = forAccepted inv (fun htlc => resolveHtlc (hex inv.paymentHash) htlc op.state op.result)
      >>= fun _ => modify (op.conclude inv) := by
  cases op with
  | settle preimage =>
    obtain ⟨hhash, hfull⟩ := h
    show settleInvoice inv (some preimage) = _
    unfold settleInvoice
    dsimp only
    rw [decide_eq_true hhash, pyAssert_true, pure_bind, if_pos hfull, pure_bind]
    rfl
  | cancelAllHtlcs => rfl

/-- A call has got through `done` and stopped before `rest`, if that is not empty. -/
structure Reaches (op : Resolution) (k : Hex) (inv : HoldInvoice) (w w' : World)
    (done rest : List Htlc) (inv' : HoldInvoice) : Prop where
  all : inv.incomingHtlcs.elems = done ++ rest
  stored : w'.holdInvoices.get? k = some inv'
  htlcs : inv'.incomingHtlcs.elems = done.map (Htlc.resolveTo op.state) ++ rest
  same_hash : inv'.paymentHash = inv.paymentHash
  same_amount : inv'.amountMsat = inv.amountMsat
  said : ∃ said, w'.trace = said ++ w.trace ∧
    ∀ κ, resultsOf κ said = if accepts κ done then [op.result] else []

variable {op : Resolution} {k : Hex} {inv inv' : HoldInvoice} {w w' : World} {done rest : List Htlc}

/-- What a call leaves that a missing callback has stopped, or nothing. -/
theorem reaches_of_run [Deployment] (hget : w.holdInvoices.get? k = some inv) (hown : inv.OwnRequests)
    (hop : op.Applies inv)
    (hrun : op.run inv w = .ok () w' ∨ op.run inv w = .error .AssertionError w') :
    ∃ done rest inv', op.Reaches k inv w w' done rest inv' ∧
      (op.run inv w = .ok () w' → rest = [] ∧ inv'.fundingStatus = op.status) := by
  have hk : hex inv.paymentHash = k := HoldInvoices.hex_paymentHash hget
  have hstart : w.HasHtlcs k inv ([] ++ inv.incomingHtlcs.elems) := ⟨inv.incomingHtlcs.nodup, hget⟩
  have hloop := hasHtlcs_resolveAll k op.state op.result hown hstart
  have hreached := fun s => @resolveAll_reached w s k op.state op.result inv.incomingHtlcs.elems
    inv.incomingHtlcs.nodup hown
  rw [run_eq hop, hk] at hrun ⊢
  unfold forAccepted at hrun ⊢
  cases hr : (inv.incomingHtlcs.elems.forM fun h =>
      if h.state = .accepted then resolveHtlc k h op.state op.result else pure ()) w with
  | ok a s =>
    obtain ⟨done, rest, hall, ⟨hleft, said, hsaid, hresults⟩, hrest⟩ := hreached s (.inl hr)
    rw [bind_ok hr] at hrun ⊢
    have hw : w' = op.conclude inv s := by
      rcases hrun with hrun | hrun
      · cases hrun
        rfl
      · cases hrun
    unfold final at hloop
    rw [hr, hall, hleft] at hloop
    obtain ⟨hnodup, hget'⟩ := @World.HasHtlcs.setFundingStatus _ _ _ _ op.status hloop
    refine ⟨done, rest, { inv.setFundingStatus op.status with incomingHtlcs := ⟨_, hnodup⟩ },
      ⟨hall, ?_, rfl, rfl, rfl, ?_⟩, fun _ => ⟨hrest hr, rfl⟩⟩
    · rw [hw, ← hget', ← hk]
      cases op <;> rfl
    · rw [hw]
      cases op with
      | settle preimage =>
        refine ⟨.settled inv.paymentHash preimage :: said, ?_, hresults⟩
        rw [List.cons_append, ← hsaid]
        rfl
      | cancelAllHtlcs => exact ⟨said, hsaid, hresults⟩
  | error e s =>
    rw [bind_error hr] at hrun ⊢
    have hw : e = .AssertionError ∧ w' = s := by
      rcases hrun with hrun | hrun
      · cases hrun
      · cases hrun
        exact ⟨rfl, rfl⟩
    obtain ⟨rfl, rfl⟩ := hw
    obtain ⟨done, rest, hall, ⟨hleft, hsaid⟩, -⟩ := hreached w' (.inr hr)
    unfold final at hloop
    rw [hr, hall, hleft] at hloop
    obtain ⟨hnodup, hget'⟩ := hloop
    exact ⟨done, rest, _, ⟨hall, hget', rfl, rfl, rfl, hsaid⟩, fun hok => nomatch hok⟩

theorem Reaches.ownRequests (h : op.Reaches k inv w w' done rest inv') (hown : inv.OwnRequests) :
    inv'.OwnRequests := by
  intro a ha r hr
  have ha : a ∈ done.map (Htlc.resolveTo op.state) ++ rest := h.htlcs ▸ ha
  rcases List.mem_append.mp ha with ha | ha
  · obtain ⟨b, hb, rfl⟩ := List.mem_map.mp ha
    have hcallback : b.requestCallback = some r := by
      rw [← hr]
      unfold Htlc.resolveTo
      split <;> rfl
    rw [Htlc.key_resolveTo]
    exact hown b (HtlcSet.mem_def.mpr (h.all ▸ List.mem_append_left rest hb)) r hcallback
  · exact hown a (HtlcSet.mem_def.mpr (h.all ▸ List.mem_append_right done ha)) r hr

/-- Settling takes nothing from what an invoice is funded with. -/
theorem Reaches.isFullyFunded {preimage : Bytes}
    (h : (Resolution.settle preimage).Reaches k inv w w' done rest inv')
    (hfull : inv.isFullyFunded = true) : inv'.isFullyFunded = true := by
  have hmap : msatOf Htlc.counted (done.map (Htlc.resolveTo .settled)) = msatOf Htlc.counted done := by
    clear h
    induction done with
    | nil => rfl
    | cons a done ih =>
      rw [List.map_cons, msatOf_cons, msatOf_cons, ih]
      unfold Htlc.resolveTo
      split
      · next hacc => simp [Htlc.counted, hacc]
      · rfl
  refine HoldInvoice.isFullyFunded_mono hfull h.same_amount (Nat.le_of_eq ?_)
  show msatOf Htlc.counted inv.incomingHtlcs.elems = msatOf Htlc.counted inv'.incomingHtlcs.elems
  rw [h.all, h.htlcs, msatOf_append, msatOf_append]
  congr 1
  exact hmap.symm

/-- A call gets through when each accepted HTLC has an open callback. -/
theorem runs [Deployment] (hown : inv.OwnRequests)
    (hop : op.Applies inv) (hopen : w.AllOpen inv.incomingHtlcs.elems) :
    ∃ w', op.run inv w = .ok () w' := by
  have hreturns := (resolveAll_returns_iff (hex inv.paymentHash) op.state op.result
    inv.incomingHtlcs.nodup hown w).mpr hopen
  rw [run_eq hop]
  unfold forAccepted
  cases hr : (inv.incomingHtlcs.elems.forM fun h =>
      if h.state = .accepted then resolveHtlc (hex inv.paymentHash) h op.state op.result
      else pure ()) w with
  | ok a s =>
    rw [bind_ok hr]
    exact ⟨op.conclude inv s, rfl⟩
  | error e s =>
    unfold returns at hreturns
    rw [hr] at hreturns
    cases hreturns

end Resolution

/-! ## Between the calls -/

namespace HoldInvoice

/-- The HTLCs of an invoice without their callbacks. -/
def states (inv : HoldInvoice) : List (HtlcKey × HtlcState) :=
  inv.incomingHtlcs.elems.map fun h => (h.key, h.state)

/-- The same invoice but for the callbacks of its HTLCs and the order they are in. -/
structure SameStates (inv inv' : HoldInvoice) : Prop where
  states : inv'.states.Perm inv.states
  paymentHash : inv'.paymentHash = inv.paymentHash
  amountMsat : inv'.amountMsat = inv.amountMsat

variable {inv inv' : HoldInvoice}

theorem SameStates.refl (inv : HoldInvoice) : inv.SameStates inv := ⟨.refl _, rfl, rfl⟩

theorem SameStates.trans {inv'' : HoldInvoice} (h : inv.SameStates inv') (h' : inv'.SameStates inv'') :
    inv.SameStates inv'' :=
  ⟨h'.states.trans h.states, h'.paymentHash.trans h.paymentHash, h'.amountMsat.trans h.amountMsat⟩

theorem SameStates.accepts (h : inv.SameStates inv') (κ : HtlcKey) :
    accepts κ inv'.incomingHtlcs.elems = SubswapProvider.accepts κ inv.incomingHtlcs.elems := by
  have hpair : ∀ i : HoldInvoice, SubswapProvider.accepts κ i.incomingHtlcs.elems = true ↔
      (κ, HtlcState.accepted) ∈ i.states := by
    intro i
    rw [accepts_iff]
    unfold HoldInvoice.states
    simp
  apply Bool.eq_iff_iff.mpr
  rw [hpair, hpair]
  exact h.states.mem_iff

/-- What an invoice is funded with can be read off the states. -/
theorem SameStates.isFullyFunded (h : inv.SameStates inv') : inv'.isFullyFunded = inv.isFullyFunded := by
  have hsum : ∀ i : HoldInvoice, i.incomingHtlcs.msat Htlc.counted =
      ((i.states.filter fun s => s.2 = .accepted ∨ s.2 = .settled).map fun s => s.1.amountMsat).sum := by
    intro i
    unfold HtlcSet.msat HoldInvoice.states
    rw [List.filter_map, List.map_map]
    rfl
  unfold HoldInvoice.isFullyFunded
  rw [h.amountMsat, hsum, hsum, ((h.states.filter _).map _).sum_eq]

/-- A change of the HTLCs one by one that keeps their states. -/
theorem SameStates.map {f : Htlc → Htlc} {hf : ∀ h, (f h).key = h.key} (hstate : ∀ h, (f h).state = h.state) :
    inv.SameStates { inv with incomingHtlcs := inv.incomingHtlcs.map f hf } := by
  refine ⟨.of_eq ?_, rfl, rfl⟩
  unfold HoldInvoice.states
  show (inv.incomingHtlcs.elems.map f).map _ = _
  rw [List.map_map]
  apply List.map_congr_left
  intro a _
  show ((f a).key, (f a).state) = (a.key, a.state)
  rw [hf, hstate]

theorem SameStates.reorder (order : List Htlc) : inv.SameStates (inv.reorderHtlcs order) := by
  refine ⟨?_, rfl, rfl⟩
  unfold HoldInvoice.states HoldInvoice.reorderHtlcs HtlcSet.reorder
  dsimp only
  split
  · next h => exact h.map _
  · exact .refl _

end HoldInvoice

/-- What an operation that only registers callbacks makes of an invoice. -/
def InvoiceOp.change (op : InvoiceOp) : HoldInvoice → HoldInvoice :=
  match op with
  | .addNewHtlcCallback request => (·.setHtlcCallback request.htlc.key request)
  | .rehash order => (·.reorderHtlcs order)
  | .reload => HoldInvoice.stored
  | _ => id

/-- The operation only registers a callback: of one HTLC, or anew after the invoice has been reloaded;
or the set comes in another order. -/
def InvoiceOp.Registers (op : InvoiceOp) : Prop :=
  match op with
  | .addNewHtlcCallback _ | .rehash _ | .reload => True
  | _ => False

section

variable {k : Hex} {inv : HoldInvoice} {w : World} {op : InvoiceOp}

theorem InvoiceOp.change_paymentHash (op : InvoiceOp) (inv : HoldInvoice) :
    (op.change inv).paymentHash = inv.paymentHash := by
  cases op <;> rfl

theorem InvoiceOp.step_registers [Deployment] (hop : op.Registers) (hget : w.holdInvoices.get? k = some inv) :
    op.step k w = w.mutHoldInvoice k op.change op.change_paymentHash := by
  unfold InvoiceOp.step final InvoiceOp.run
  rw [get_bind, hget]
  cases op with
  | handleHtlc | settle | cancelAllHtlcs => exact hop.elim
  | addNewHtlcCallback | rehash | reload => rfl

theorem InvoiceOp.sameStates_change (op : InvoiceOp) (inv : HoldInvoice) : inv.SameStates (op.change inv) := by
  cases op with
  | addNewHtlcCallback request =>
    refine HoldInvoice.SameStates.map fun h => ?_
    split <;> rfl
  | rehash order => exact HoldInvoice.SameStates.reorder order
  | reload => exact HoldInvoice.SameStates.map fun _ => rfl
  | handleHtlc | settle | cancelAllHtlcs => exact .refl inv

theorem InvoiceOp.ownRequests_change (op : InvoiceOp) (hown : inv.OwnRequests) :
    (op.change inv).OwnRequests := by
  cases op with
  | addNewHtlcCallback request => exact hown.setHtlcCallback rfl
  | rehash order => exact fun a ha => hown a (HtlcSet.mem_reorder.mp ha)
  | reload =>
    intro a ha r hr
    obtain ⟨b, -, rfl⟩ := HoldInvoice.mem_stored.mp ha
    cases hr
  | handleHtlc | settle | cancelAllHtlcs => exact hown

/-- The invoice under `k` is `inv` but for callbacks, and nothing has been said. -/
def World.Registered (w₁ w : World) (k : Hex) (inv : HoldInvoice) : Prop :=
  w.trace = w₁.trace ∧ ∃ inv', w.holdInvoices.get? k = some inv' ∧ inv.SameStates inv' ∧ inv'.OwnRequests

theorem InvoiceOp.step_registered [Deployment] {w₁ : World} (hop : op.Registers) (h : w₁.Registered w k inv) :
    w₁.Registered (op.step k w) k inv := by
  obtain ⟨htrace, inv', hget, hsame, hown⟩ := h
  rw [InvoiceOp.step_registers hop hget]
  refine ⟨htrace, op.change inv', ?_, hsame.trans (op.sameStates_change inv'), op.ownRequests_change hown⟩
  apply (World.get?_mutHoldInvoice _).trans
  rw [if_pos rfl, hget]
  rfl

end

/-! ## Both calls -/

/-- Each HTLC that is accepted before the first call is answered in one of the two. -/
theorem resultsOf_reaches {op : Resolution} {k : Hex} {inv inv₁ inv₂ inv₃ : HoldInvoice}
    {w w₁ w₂ w₃ : World} {done rest done' : List Htlc}
    (hfirst : op.Reaches k inv w w₁ done rest inv₁) (hsame : inv₁.SameStates inv₂)
    (hsecond : op.Reaches k inv₂ w₂ w₃ done' [] inv₃) (htrace : w₂.trace = w₁.trace) :
    ∃ first second, w₂.trace = first ++ w.trace ∧ w₃.trace = second ++ w₂.trace ∧
      (∀ h ∈ inv₂.incomingHtlcs, resultsOf h.key second = if h.state = .accepted then [op.result] else []) ∧
      ∀ h ∈ inv.incomingHtlcs, resultsOf h.key (second ++ first) =
        if h.state = .accepted then [op.result] else [] := by
  obtain ⟨first, hsaid, hresults⟩ := hfirst.said
  obtain ⟨second, hsaid', hresults'⟩ := hsecond.said
  have hdone' : inv₂.incomingHtlcs.elems = done' := by
    rw [hsecond.all, List.append_nil]
  rw [← hdone'] at hresults'
  refine ⟨first, second, htrace.trans hsaid, hsaid', fun h hh => ?_, fun h hh => ?_⟩
  · rw [hresults', accepts_eq inv₂.incomingHtlcs.nodup hh]
    simp
  · -- the first call leaves the HTLCs of `rest` accepted and no other
    have hleft : accepts h.key inv₂.incomingHtlcs.elems = accepts h.key rest := by
      rw [hsame.accepts, hfirst.htlcs, accepts_append, accepts_resolveTo op.state_ne, Bool.false_or]
    have hnodup := inv.incomingHtlcs.nodup
    rw [hfirst.all] at hnodup
    have hone : accepts h.key (done ++ rest) = decide (h.state = .accepted) := by
      apply accepts_eq hnodup
      rw [← hfirst.all]
      exact hh
    have hapart : accepts h.key done = false ∨ accepts h.key rest = false := by
      rw [List.map_append, List.nodup_append'] at hnodup
      by_cases hmem : h.key ∈ done.map Htlc.key
      · right
        exact accepts_of_notMem (hnodup.2.2 hmem)
      · left
        exact accepts_of_notMem hmem
    rw [accepts_append] at hone
    rw [resultsOf_append, hresults, hresults', hleft]
    by_cases hacc : h.state = .accepted
    · rw [if_pos hacc]
      rw [decide_eq_true hacc] at hone
      rcases hapart with hnot | hnot
      · rw [hnot, Bool.false_or] at hone
        simp [hnot, hone]
      · rw [hnot, Bool.or_false] at hone
        simp [hnot, hone]
    · rw [if_neg hacc]
      rw [decide_eq_false hacc, Bool.or_eq_false_iff] at hone
      simp [hone.1, hone.2]

/-- **A call that a missing callback has stopped is resumed**: once each HTLC that is still accepted
has a callback the same call gets through and answers these, and over both calls each HTLC that was
accepted has got the one result, and no other has got any. -/
theorem resolution_resumes [Deployment] (op : Resolution) (w w₁ w₂ : World) (k : Hex)
    (inv : HoldInvoice) (hget : w.holdInvoices.get? k = some inv) (hown : inv.OwnRequests)
    (hop : op.Applies inv) (hfirst : op.run inv w = .error .AssertionError w₁)
    (hregister : Run (InvoiceOp.step k) (fun _ o => o.Registers) w₁ w₂)
    (hopen : ∀ inv₂, w₂.holdInvoices.get? k = some inv₂ → w₂.AllOpen inv₂.incomingHtlcs.elems) :
    ∃ inv₂ inv₃ w₃ first second, w₂.holdInvoices.get? k = some inv₂ ∧
      op.run inv₂ w₂ = .ok () w₃ ∧ w₃.holdInvoices.get? k = some inv₃ ∧
      inv₃.fundingStatus = op.status ∧
      inv₃.incomingHtlcs.elems = inv₂.incomingHtlcs.elems.map (Htlc.resolveTo op.state) ∧
      w₂.trace = first ++ w.trace ∧ w₃.trace = second ++ w₂.trace ∧
      (∀ h ∈ inv₂.incomingHtlcs, resultsOf h.key second =
        if h.state = .accepted then [op.result] else []) ∧
      ∀ h ∈ inv.incomingHtlcs, resultsOf h.key (second ++ first) =
        if h.state = .accepted then [op.result] else [] := by
  obtain ⟨done, rest, inv₁, hreach, -⟩ := Resolution.reaches_of_run hget hown hop (.inr hfirst)
  obtain ⟨htrace, inv₂, hget₂, hsame, hown₂⟩ : w₁.Registered w₂ k inv₁ :=
    Run.invariant (I := fun s => w₁.Registered s k inv₁)
      (fun _ _ ho hs => InvoiceOp.step_registered ho hs) hregister
      ⟨rfl, inv₁, hreach.stored, .refl inv₁, hreach.ownRequests hown⟩
  have hop₂ : op.Applies inv₂ := by
    cases op with
    | cancelAllHtlcs => trivial
    | settle preimage =>
      obtain ⟨hhash, hfull⟩ := hop
      refine ⟨hsame.paymentHash.trans (hreach.same_hash.trans hhash), ?_⟩
      -- what the first call has settled still counts
      rw [hsame.isFullyFunded]
      exact hreach.isFullyFunded hfull
  obtain ⟨w₃, hrun⟩ := Resolution.runs hown₂ hop₂ (hopen inv₂ hget₂)
  obtain ⟨done', rest', inv₃, hreach', hends⟩ := Resolution.reaches_of_run hget₂ hown₂ hop₂ (.inl hrun)
  obtain ⟨rfl, hstatus⟩ := hends hrun
  obtain ⟨first, second, hsaid, hsaid', hsecond, hboth⟩ :=
    resultsOf_reaches hreach hsame hreach' htrace
  refine ⟨inv₂, inv₃, w₃, first, second, hget₂, hrun, hreach'.stored, hstatus, ?_, hsaid, hsaid',
    hsecond, hboth⟩
  rw [hreach'.htlcs, hreach'.all, List.append_nil, List.append_nil]

section Sample

open Sample

attribute [local instance] Sample.deployment

/-- The callback of the first of two HTLCs has been registered after a restart. -/
def halfReplayed : World := afterOps (paidAndReloaded [1])

/-- The invoice in it. -/
def halfReplayedInvoice : HoldInvoice :=
  (halfReplayed.getHoldInvoice Sample.paymentHash).getD
    (HoldInvoice.new Sample.paymentHash "lnbcrt10n" 1000 3600 0)

instance (inv : HoldInvoice) : Decidable inv.OwnRequests :=
  decidable_of_iff ((inv.incomingHtlcs.elems.all fun h =>
      h.requestCallback.all fun r => r.htlc.key = h.key) = true) (by
    rw [List.all_eq_true]
    refine forall_congr' fun h => forall_congr' fun _ => ?_
    cases h.requestCallback <;> simp)

/-- The first call, then the replay of the second HTLC. -/
def secondReplayed : World :=
  [InvoiceOp.addNewHtlcCallback { htlcFor 2 Sample.paymentHash 600 with serial := 4 }].foldl
    (fun w op => op.step (hex Sample.paymentHash) w)
    (final ((Resolution.settle Sample.preimage).run halfReplayedInvoice) halfReplayed)

/-- `settle` settles the first HTLC and is stopped by the second one. When that has been replayed it
is called again and settles it. -/
theorem resolution_resumes_settle :
    ∃ inv₂ inv₃ w₃, (Resolution.settle Sample.preimage).run inv₂ secondReplayed = .ok () w₃ ∧
      w₃.holdInvoices.get? (hex Sample.paymentHash) = some inv₃ ∧ inv₃.fundingStatus = .settled := by
  have hget : halfReplayed.holdInvoices.get? (hex Sample.paymentHash) = some halfReplayedInvoice := by
    decide +kernel
  have happlies : (Resolution.settle Sample.preimage).Applies halfReplayedInvoice :=
    ⟨by decide +kernel, by decide +kernel⟩
  have hopen : (secondReplayed.holdInvoices.get? (hex Sample.paymentHash)).all
      (fun inv => secondReplayed.AllOpen inv.incomingHtlcs.elems) = true := by decide +kernel
  obtain ⟨inv₂, inv₃, w₃, -, -, -, hrun, hget₃, hstatus, -⟩ := resolution_resumes
    (.settle Sample.preimage) halfReplayed _ secondReplayed (hex Sample.paymentHash)
    halfReplayedInvoice hget (by decide +kernel) happlies (error_of_raises (by decide +kernel))
    (Run.of_allows .refl ⟨trivial, trivial⟩) fun inv hinv => by
      rw [hinv] at hopen
      exact of_decide_eq_true hopen
  exact ⟨inv₂, inv₃, w₃, hrun, hget₃, hstatus⟩

end Sample

end SubswapProvider
