import SubswapProvider.Tallying
import SubswapProvider.Encoding
import SubswapProvider.Throughout

/-!
# A restart does not show in the hold invoices

What is stored of a hold invoice is everything but the callbacks of its HTLCs, and lightningd brings
those back: it replays the HTLCs that have no answer yet. Up to the callbacks (and the order in which
a set is iterated) the invoices are what they were, nothing is answered in between, and a hook call
makes of an invoice what it would have made of it without the restart (`restart_transparent`).
-/

namespace SubswapProvider

open Deployment Effect

/-! ## What a hook call makes of an invoice -/

/-- The invoice after a hook call, whatever comes of saving it. -/
def HoldInvoice.afterHook (env : Env) (payment_secret : Option Bytes) (request : Request)
    (inv : HoldInvoice) : HoldInvoice :=
  match inv.findHtlc request.htlc.key with
  | some existing => inv.setHtlcCallback existing.key request
  | none =>
    match checkHtlc env inv payment_secret request.htlc with
    | .error _ => inv.addHtlc (request.newHtlc env)
    | .ok false => (inv.addHtlc (request.newHtlc env)).setHtlcState request.htlc.key .cancelled
    | .ok true =>
      if (inv.addHtlc (request.newHtlc env)).isFullyFunded then
        (inv.addHtlc (request.newHtlc env)).setFundingStatus .funded
      else inv.addHtlc (request.newHtlc env)

section

variable {env : Env} {payment_secret : Option Bytes} {request : Request} {inv : HoldInvoice}
variable {w : World}

/-- The hold invoices are those of `w`, with `inv` in the place of the one `request` is about. -/
def World.HoldsWith (w : World) (request : Request) (inv : HoldInvoice) (s : World) : Prop :=
  ∀ k, s.holdInvoices.get? k
    = if k = hex request.htlc.paymentHash then some inv else w.holdInvoices.get? k

/-- One change of the invoice of a hook call. -/
theorem World.HoldsWith.mut {f : HoldInvoice → HoldInvoice}
    {hf : ∀ inv, (f inv).paymentHash = inv.paymentHash} {s : World} (h : w.HoldsWith request inv s) :
    w.HoldsWith request (f inv) (s.mutHoldInvoice (hex request.htlc.paymentHash) f hf) := by
  intro k
  apply (World.get?_mutHoldInvoice _).trans
  by_cases hk : k = hex request.htlc.paymentHash
  · rw [if_pos hk, if_pos hk, h, if_pos rfl]
    rfl
  · rw [if_neg hk, if_neg hk, h, if_neg hk]

theorem World.HoldsWith.refl (hinvoice : w.getHoldInvoice request.htlc.paymentHash = some inv) :
    w.HoldsWith request inv w := by
  intro k
  by_cases hk : k = hex request.htlc.paymentHash
  · rw [if_pos hk, hk]
    exact hinvoice
  · rw [if_neg hk]

theorem holdsWith_setResult (res : HookResult) :
    Keeps (w.HoldsWith request inv) (setResult request res) :=
  Keeps.get fun _ => Keeps.ite (Keeps.bind (Keeps.modify fun _ h => h) fun _ => Keeps.throw)
    (Keeps.modify fun _ h => h)

theorem triple_handleHtlc_afterHook
    (hinvoice : w.getHoldInvoice request.htlc.paymentHash = some inv) :
    Triple (· = w) (handleHtlc env inv payment_secret request)
      (fun _ => w.HoldsWith request (inv.afterHook env payment_secret request))
      fun _ => w.HoldsWith request (inv.afterHook env payment_secret request) := by
  have hhash : inv.paymentHash = request.htlc.paymentHash :=
    hex_inj.mp (HoldInvoices.hex_paymentHash hinvoice)
  have hadded : w.HoldsWith request (inv.addHtlc (request.newHtlc env)) (w.withHtlc env request) :=
    (World.HoldsWith.refl hinvoice).mut
  intro s hs
  subst hs
  unfold HoldInvoice.afterHook
  cases hfind : inv.findHtlc request.htlc.key with
  | some existing =>
    rw [handleHtlc_known hhash hfind]
    exact (World.HoldsWith.refl hinvoice).mut
  | none =>
    cases hcheck : checkHtlc env inv payment_secret request.htlc with
    | error e =>
      rw [handleHtlc_raises hhash hfind hcheck]
      exact hadded
    | ok passed =>
      cases passed with
      | false =>
        rw [handleHtlc_rejects hhash hfind hcheck]
        have hrejected : s.HoldsWith request
            ((inv.addHtlc (request.newHtlc env)).setHtlcState request.htlc.key .cancelled)
            (s.withRejected env request) := hadded.mut
        have hreject : Keeps (s.HoldsWith request
            ((inv.addHtlc (request.newHtlc env)).setHtlcState request.htlc.key .cancelled))
            (setResult request (.fail "400F") >>= fun _ => pure true) :=
          Keeps.bind (holdsWith_setResult _) fun _ => Keeps.pure
        exact hreject _ hrejected
      | true =>
        rw [handleHtlc_admits hhash hfind hcheck]
        by_cases hfull : (inv.addHtlc (request.newHtlc env)).isFullyFunded = true
        · rw [if_pos hfull]
          dsimp only
          rw [if_pos hfull]
          have hfunded : s.HoldsWith request
              ((inv.addHtlc (request.newHtlc env)).setFundingStatus .funded)
              ((s.withHtlc env request).mutHoldInvoice (hex request.htlc.paymentHash)
                (·.setFundingStatus .funded) fun _ => rfl) := hadded.mut
          exact hfunded
        · rw [if_neg hfull]
          dsimp only
          rw [if_neg hfull]
          exact hadded

/-- **What a hook call makes of its invoice.** -/
theorem hook_holdsWith (hinvoice : w.getHoldInvoice request.htlc.paymentHash = some inv) :
    w.HoldsWith request (inv.afterHook env payment_secret request)
      (final (pluginHtlcAcceptedHook env false payment_secret request) w) := by
  have hhook : Triple (· = w) (pluginHtlcAcceptedHook env false payment_secret request)
      (fun _ => w.HoldsWith request (inv.afterHook env payment_secret request))
      fun _ => w.HoldsWith request (inv.afterHook env payment_secret request) := by
    unfold pluginHtlcAcceptedHook
    rw [if_neg (by decide)]
    refine Triple.getBind fun s hs => ?_
    subst hs
    rw [hinvoice]
    refine Triple.tryCatch (Triple.bind (triple_handleHtlc_afterHook hinvoice) fun changed => ?_)
      fun _ => holdsWith_setResult _
    refine Keeps.ite (Keeps.of_rel (same_update env _) SameHolds.refl fun s' t hst hs' => ?_)
      Keeps.pure
    exact fun k => (hst.holdInvoices k).trans (hs' k)
  exact hhook.final rfl

end

/-! ## Alike -/

namespace HoldInvoice

/-- The invoices are the same but for callbacks and the order of the HTLCs. -/
structure Alike (inv inv' : HoldInvoice) : Prop where
  fields : { inv' with incomingHtlcs := inv.incomingHtlcs } = inv
  htlcs : (inv'.incomingHtlcs.elems.map Htlc.stored).Perm (inv.incomingHtlcs.elems.map Htlc.stored)

namespace Alike

variable {inv inv' inv'' : HoldInvoice}

theorem refl (inv : HoldInvoice) : inv.Alike inv := ⟨rfl, .refl _⟩

theorem symm (h : inv.Alike inv') : inv'.Alike inv where
  fields := by
    rw [← h.fields]
  htlcs := h.htlcs.symm

theorem trans (h : inv.Alike inv') (h' : inv'.Alike inv'') : inv.Alike inv'' where
  fields := by
    rw [← h.fields, ← h'.fields]
  htlcs := h'.htlcs.trans h.htlcs

/-- A change of the HTLCs one by one that does not show in what is stored. -/
theorem map {f : Htlc → Htlc} {hf : ∀ h, (f h).key = h.key} (h : ∀ a, (f a).stored = a.stored) :
    inv.Alike { inv with incomingHtlcs := inv.incomingHtlcs.map f hf } where
  fields := rfl
  htlcs := by
    show ((inv.incomingHtlcs.elems.map f).map Htlc.stored).Perm _
    rw [List.map_map, show Htlc.stored ∘ f = Htlc.stored from funext h]

theorem toStored (inv : HoldInvoice) : inv.Alike inv.stored := map fun _ => rfl

theorem setHtlcCallback (inv : HoldInvoice) (κ : HtlcKey) (r : Request) :
    inv.Alike (inv.setHtlcCallback κ r) := by
  refine map fun a => ?_
  split
  · rfl
  · rfl

theorem reorderHtlcs (inv : HoldInvoice) (order : List Htlc) :
    inv.Alike (inv.reorderHtlcs order) where
  fields := rfl
  htlcs := by
    show ((inv.incomingHtlcs.reorder order).elems.map Htlc.stored).Perm _
    unfold HtlcSet.reorder
    split
    · next hperm => exact hperm.map _
    · exact .refl _

theorem mem (h : inv.Alike inv') {a : Htlc} (ha : a ∈ inv'.incomingHtlcs) :
    ∃ b ∈ inv.incomingHtlcs, b.stored = a.stored :=
  List.mem_map.mp (h.htlcs.mem_iff.mp (List.mem_map_of_mem ha))

theorem find_none (h : inv.Alike inv') {κ : HtlcKey} (hfind : inv.findHtlc κ = none) :
    inv'.findHtlc κ = none := by
  apply HtlcSet.find?_eq_none.mpr
  intro a ha hkey
  obtain ⟨b, hb, hstored⟩ := h.mem ha
  have hkeys : b.stored.key = a.stored.key := congrArg Htlc.key hstored
  exact HtlcSet.find?_eq_none.mp hfind b hb (hkeys.trans hkey)

theorem find_some (h : inv.Alike inv') {κ : HtlcKey} {a : Htlc} (hfind : inv.findHtlc κ = some a) :
    ∃ b, inv'.findHtlc κ = some b := by
  cases hfind' : inv'.findHtlc κ with
  | some b => exact ⟨b, rfl⟩
  | none =>
    rw [h.symm.find_none hfind'] at hfind
    cases hfind

theorem counted (h : inv.Alike inv') :
    inv'.incomingHtlcs.msat Htlc.counted = inv.incomingHtlcs.msat Htlc.counted := by
  have hstored : ∀ i : HoldInvoice, i.incomingHtlcs.msat Htlc.counted
      = msatOf Htlc.counted (i.incomingHtlcs.elems.map Htlc.stored) := by
    intro i
    have hmap : (i.incomingHtlcs.map Htlc.stored Htlc.key_stored).msat Htlc.counted
        = i.incomingHtlcs.msat Htlc.counted := HtlcSet.msat_map fun _ _ => rfl
    exact hmap.symm
  rw [hstored, hstored]
  exact ((h.htlcs.filter Htlc.counted).map _).sum_eq

theorem isFullyFunded (h : inv.Alike inv') : inv'.isFullyFunded = inv.isFullyFunded := by
  have hamount : inv'.amountMsat = inv.amountMsat := by rw [← h.fields]
  unfold HoldInvoice.isFullyFunded
  rw [h.counted, hamount]

theorem check (h : inv.Alike inv') (env : Env) (payment_secret : Option Bytes) (d : IncomingHtlc) :
    checkHtlc env inv' payment_secret d = checkHtlc env inv payment_secret d := by
  have hbolt11 : inv'.bolt11 = inv.bolt11 := by rw [← h.fields]
  have hstatus : inv'.fundingStatus = inv.fundingStatus := by rw [← h.fields]
  unfold checkHtlc
  rw [hbolt11, hstatus]

/-- Both invoices get the same new HTLC. -/
theorem append (h : inv.Alike inv') {i i' : HoldInvoice} {a : Htlc}
    (hi : i.incomingHtlcs.elems = inv.incomingHtlcs.elems ++ [a])
    (hi' : i'.incomingHtlcs.elems = inv'.incomingHtlcs.elems ++ [a])
    (hfields : { i with incomingHtlcs := inv.incomingHtlcs } = inv)
    (hfields' : { i' with incomingHtlcs := inv'.incomingHtlcs } = inv') : i.Alike i' where
  fields := by
    have hi : i = { inv with incomingHtlcs := i.incomingHtlcs } := by rw [← hfields]
    have hi' : i' = { inv' with incomingHtlcs := i'.incomingHtlcs } := by rw [← hfields']
    rw [hi, hi', ← h.fields]
  htlcs := by
    rw [hi, hi', List.map_append, List.map_append]
    exact h.htlcs.append_right _

theorem setFundingStatus (h : inv.Alike inv') (st : InvoiceState) :
    (inv.setFundingStatus st).Alike (inv'.setFundingStatus st) where
  fields := by
    rw [← h.fields]
    rfl
  htlcs := h.htlcs

/-- **A hook call makes alike invoices of alike ones.** -/
theorem afterHook (h : inv.Alike inv') (env : Env) (payment_secret : Option Bytes)
    (request : Request) : (inv.afterHook env payment_secret request).Alike
      (inv'.afterHook env payment_secret request) := by
  unfold HoldInvoice.afterHook
  rw [h.check]
  cases hfind : inv.findHtlc request.htlc.key with
  | some existing =>
    obtain ⟨existing', hfind'⟩ := h.find_some hfind
    rw [hfind']
    exact ((setHtlcCallback inv _ _).symm.trans h).trans (setHtlcCallback inv' _ _)
  | none =>
    have hfind' := h.find_none hfind
    have hnew : inv.incomingHtlcs.find? (request.newHtlc env).key = none := hfind
    have hnew' : inv'.incomingHtlcs.find? (request.newHtlc env).key = none := hfind'
    have hadd : (inv.addHtlc (request.newHtlc env)).Alike (inv'.addHtlc (request.newHtlc env)) :=
      h.append (HtlcSet.elems_add hnew) (HtlcSet.elems_add hnew') rfl rfl
    rw [hfind']
    cases checkHtlc env inv payment_secret request.htlc with
    | error e => exact hadd
    | ok passed =>
      cases passed with
      | false =>
        exact h.append (HtlcSet.elems_modify_add (f := fun a => { a with state := .cancelled }) hnew
          fun _ => rfl) (HtlcSet.elems_modify_add (f := fun a => { a with state := .cancelled }) hnew'
          fun _ => rfl) rfl rfl
      | true =>
        dsimp only
        rw [hadd.isFullyFunded]
        split
        · exact hadd.setFundingStatus .funded
        · exact hadd

end Alike

end HoldInvoice

/-! ## The tables of two processes -/

/-- The processes have the same hold invoices, but for callbacks and the order of the HTLCs. -/
def World.Alike (w w' : World) : Prop :=
  ∀ k, Option.Rel HoldInvoice.Alike (w.holdInvoices.get? k) (w'.holdInvoices.get? k)

section

variable {w w' : World}

theorem World.Alike.refl (w : World) : w.Alike w := by
  intro k
  cases w.holdInvoices.get? k with
  | none => exact .none
  | some inv => exact .some (HoldInvoice.Alike.refl inv)

theorem World.Alike.of_some (h : w.Alike w') {k : Hex} {inv' : HoldInvoice}
    (hinv' : w'.holdInvoices.get? k = some inv') :
    ∃ inv, w.holdInvoices.get? k = some inv ∧ inv.Alike inv' := by
  have hk := h k
  rw [hinv'] at hk
  generalize hinv : w.holdInvoices.get? k = o at hk
  cases hk with
  | some halike => exact ⟨_, rfl, halike⟩

/-- A change of one invoice that does not show. -/
theorem World.Alike.mut {k : Hex} {f : HoldInvoice → HoldInvoice}
    {hf : ∀ inv, (f inv).paymentHash = inv.paymentHash} (h : w.Alike w')
    (hf' : ∀ inv : HoldInvoice, inv.Alike (f inv)) : w.Alike (w'.mutHoldInvoice k f hf) := by
  intro k'
  rw [show (w'.mutHoldInvoice k f hf).holdInvoices.get? k' = _ from World.get?_mutHoldInvoice k']
  split
  · next hk =>
    subst hk
    have hk' := h k'
    generalize w.holdInvoices.get? k' = o at hk' ⊢
    generalize w'.holdInvoices.get? k' = o' at hk' ⊢
    cases hk' with
    | none => exact .none
    | some halike => exact .some (halike.trans (hf' _))
  · exact h k'

variable [Deployment]

/-- **A hook call makes alike tables of alike ones.** -/
theorem World.Alike.hook (h : w.Alike w') (env : Env) (forward : Bool)
    (payment_secret : Option Bytes) (request : Request) :
    (step (.htlc env forward payment_secret request) w).Alike
      (step (.htlc env forward payment_secret request) w') := by
  have hanswer : ∀ (s : World) (res : HookResult) k,
      (final (setResult request res) s).holdInvoices.get? k = s.holdInvoices.get? k := by
    intro s res
    have hkeeps : Keeps (fun t => ∀ k, t.holdInvoices.get? k = s.holdInvoices.get? k)
        (setResult request res) :=
      Keeps.get fun _ => Keeps.ite (Keeps.bind (Keeps.modify fun _ h => h) fun _ => Keeps.throw)
        (Keeps.modify fun _ h => h)
    exact hkeeps.final fun _ => rfl
  show (final (pluginHtlcAcceptedHook env forward payment_secret request) w).Alike
    (final (pluginHtlcAcceptedHook env forward payment_secret request) w')
  cases forward with
  | true =>
    intro k
    unfold pluginHtlcAcceptedHook
    rw [if_pos rfl, hanswer, hanswer]
    exact h k
  | false =>
    have hhash := h (hex request.htlc.paymentHash)
    cases hinv : w.getHoldInvoice request.htlc.paymentHash with
    | none =>
      have hinv' : w'.getHoldInvoice request.htlc.paymentHash = none := by
        unfold World.getHoldInvoice at hinv ⊢
        rw [hinv] at hhash
        generalize w'.holdInvoices.get? (hex request.htlc.paymentHash) = o at hhash ⊢
        cases hhash
        rfl
      have hnone : ∀ s : World, s.getHoldInvoice request.htlc.paymentHash = none →
          pluginHtlcAcceptedHook env false payment_secret request s
            = setResult request .continue_ s := by
        intro s hs
        unfold pluginHtlcAcceptedHook
        rw [if_neg (by decide), get_bind, hs]
      intro k
      rw [final_congr (hnone w hinv), final_congr (hnone w' hinv'), hanswer, hanswer]
      exact h k
    | some inv =>
      obtain ⟨inv', hinv', halike⟩ : ∃ inv' : HoldInvoice,
          w'.getHoldInvoice request.htlc.paymentHash = some inv' ∧
            HoldInvoice.Alike inv inv' := by
        unfold World.getHoldInvoice at hinv ⊢
        rw [hinv] at hhash
        generalize w'.holdInvoices.get? (hex request.htlc.paymentHash) = o at hhash ⊢
        cases hhash with
        | some halike => exact ⟨_, rfl, halike⟩
      intro k
      rw [hook_holdsWith hinv k, hook_holdsWith hinv' k]
      split
      · exact .some (halike.afterHook env payment_secret request)
      · exact h k

/-! ## The replays -/

/-- The HTLC is one of those stored as accepted. -/
def World.HasAccepted (w : World) (d : IncomingHtlc) : Prop :=
  ∃ inv, w.getHoldInvoice d.paymentHash = some inv ∧
    ∃ h ∈ inv.incomingHtlcs, h.state = .accepted ∧ h.key = d.key

omit [Deployment] in
/-- The requests of some hook calls. -/
def calls (actions : List Action) : List Request := actions.filterMap Action.hookRequest?

omit [Deployment] in
/-- lightningd replays the accepted HTLCs, all of them and no others, in any order; a set may be
iterated in another order at any time. -/
structure ReplaysAccepted (w : World) (actions : List Action) : Prop where
  only : ∀ a ∈ actions, (∃ env payment_secret request,
    a = .htlc env false payment_secret request ∧ w.HasAccepted request.htlc) ∨
      ∃ k order, a = .rehash k order
  all : ∀ payment_hash inv, w.getHoldInvoice payment_hash = some inv →
    ∀ h ∈ inv.incomingHtlcs, h.state = .accepted →
      ∃ request ∈ calls actions, request.htlc.paymentHash = payment_hash ∧ request.htlc.key = h.key

/-- A call out of `requests` is the callback of the HTLC. -/
def CalledBack (requests : List Request) (payment_hash : Bytes) (h : Htlc) : Prop :=
  ∃ request ∈ requests, h.requestCallback = some request ∧
    request.htlc.paymentHash = payment_hash ∧ request.htlc.key = h.key

/-- Where a process is after some replays: nothing shows, and the HTLCs replayed so far have one of
the calls as their callback. -/
structure Replayed (w : World) (requests : List Request) (s : World) : Prop where
  alike : w.Alike s
  silent : s.trace = w.trace
  callbacks : ∀ payment_hash inv, s.getHoldInvoice payment_hash = some inv →
    ∀ h ∈ inv.incomingHtlcs, ∀ request ∈ requests, request.htlc.paymentHash = payment_hash →
      request.htlc.key = h.key → CalledBack requests payment_hash h

omit [Deployment] in
theorem CalledBack.more {requests : List Request} {payment_hash : Bytes} {h : Htlc}
    (hcalled : CalledBack requests payment_hash h) (request : Request) :
    CalledBack (requests ++ [request]) payment_hash h := by
  obtain ⟨r, hr, hrest⟩ := hcalled
  exact ⟨r, List.mem_append_left _ hr, hrest⟩

/-- A replay of a stored HTLC gives it its new callback, and that is all. -/
theorem Replayed.call {requests : List Request} {s : World} (h : Replayed w requests s) {env : Env}
    {payment_secret : Option Bytes} {request : Request} (haccepted : w.HasAccepted request.htlc) :
    Replayed w (requests ++ [request]) (step (.htlc env false payment_secret request) s) := by
  obtain ⟨inv₀, hinv₀, b, hb, -, hkey⟩ := haccepted
  have hhash := h.alike (hex request.htlc.paymentHash)
  obtain ⟨inv, hinv, halike⟩ : ∃ inv : HoldInvoice,
      s.getHoldInvoice request.htlc.paymentHash = some inv ∧ HoldInvoice.Alike inv₀ inv := by
    unfold World.getHoldInvoice at hinv₀ ⊢
    rw [hinv₀] at hhash
    generalize s.holdInvoices.get? (hex request.htlc.paymentHash) = o at hhash ⊢
    cases hhash with
    | some halike => exact ⟨_, rfl, halike⟩
  obtain ⟨existing, hfind⟩ : ∃ existing, inv.findHtlc request.htlc.key = some existing := by
    cases hfind : inv.findHtlc request.htlc.key with
    | some existing => exact ⟨existing, rfl⟩
    | none => exact absurd hkey (HtlcSet.find?_eq_none.mp (halike.symm.find_none hfind) b hb)
  have hexisting : existing.key = request.htlc.key := (HtlcSet.mem_of_find? hfind).2
  have hpayment : inv.paymentHash = request.htlc.paymentHash :=
    hex_inj.mp (HoldInvoices.hex_paymentHash hinv)
  -- `handle_htlc` returns `False`: nothing is saved
  have hstep : step (.htlc env false payment_secret request) s
      = s.mutHoldInvoice (hex request.htlc.paymentHash) (·.setHtlcCallback existing.key request)
        fun _ => rfl := by
    have hrun : pluginHtlcAcceptedHook env false payment_secret request s = .ok ()
        (s.mutHoldInvoice (hex request.htlc.paymentHash) (·.setHtlcCallback existing.key request)
          fun _ => rfl) := by
      unfold pluginHtlcAcceptedHook
      rw [if_neg (by decide), get_bind, hinv]
      exact tryCatch_ok (bind_ok (handleHtlc_known hpayment hfind))
    show final (pluginHtlcAcceptedHook env false payment_secret request) s = _
    unfold final
    rw [hrun]
  rw [hstep]
  refine ⟨h.alike.mut fun inv => HoldInvoice.Alike.setHtlcCallback inv _ _, h.silent, ?_⟩
  intro payment_hash inv' hinv' a ha r hr hrhash hrkey
  have hget := (World.get?_mutHoldInvoice _).symm.trans hinv'
  split at hget
  · next hk =>
    have hk := hex_inj.mp hk
    subst hk
    rw [show s.holdInvoices.get? (hex request.htlc.paymentHash) = some inv from hinv] at hget
    cases hget
    obtain ⟨c, hc, rfl⟩ := HoldInvoice.mem_setHtlcCallback.mp ha
    by_cases hckey : c.key = existing.key
    · rw [if_pos hckey]
      exact ⟨request, List.mem_append_right _ (List.mem_singleton_self _), rfl, rfl,
        hexisting.symm.trans hckey.symm⟩
    · rw [if_neg hckey] at hrkey ⊢
      rcases List.mem_append.mp hr with hr | hr
      · exact (h.callbacks _ inv hinv c hc r hr hrhash hrkey).more request
      · obtain rfl := List.mem_singleton.mp hr
        exact absurd (hexisting.trans hrkey).symm hckey
  · next hk =>
    rcases List.mem_append.mp hr with hr | hr
    · exact (h.callbacks _ inv' hget a ha r hr hrhash hrkey).more request
    · obtain rfl := List.mem_singleton.mp hr
      exact absurd (congrArg hex hrhash.symm) hk

theorem Replayed.rehash {requests : List Request} {s : World} (h : Replayed w requests s) (k : Hex)
    (order : List Htlc) : Replayed w requests (step (.rehash k order) s) := by
  refine ⟨h.alike.mut fun inv => HoldInvoice.Alike.reorderHtlcs inv order, h.silent, ?_⟩
  intro payment_hash inv' hinv' a ha
  have hget : (s.mutHoldInvoice k (·.reorderHtlcs order) fun _ => rfl).holdInvoices.get?
      (hex payment_hash) = some inv' := hinv'
  rw [show (s.mutHoldInvoice k (·.reorderHtlcs order) fun _ => rfl).holdInvoices.get?
      (hex payment_hash) = _ from World.get?_mutHoldInvoice _] at hget
  split at hget
  · next hk =>
    obtain ⟨inv, hinv, rfl⟩ := Option.map_eq_some_iff.mp hget
    subst hk
    exact h.callbacks payment_hash inv hinv a (HtlcSet.mem_reorder.mp ha)
  · exact h.callbacks payment_hash inv' hget a ha

/-- Any number of replays. -/
theorem Replayed.run {actions : List Action} {s : World} (h : Replayed w [] s)
    (honly : ∀ a ∈ actions, (∃ env payment_secret request,
      a = .htlc env false payment_secret request ∧ w.HasAccepted request.htlc) ∨
        ∃ k order, a = .rehash k order) : Replayed w (calls actions) (runOf actions s) := by
  induction actions using List.reverseRecOn with
  | nil => exact h
  | append_singleton actions a ih =>
    have ih := ih fun b hb => honly b (List.mem_append_left _ hb)
    rw [runOf_append]
    unfold calls at ih ⊢
    rw [List.filterMap_append]
    rcases honly a (List.mem_append_right _ (List.mem_singleton_self a)) with
      ⟨env, payment_secret, request, rfl, haccepted⟩ | ⟨k, order, rfl⟩
    · exact ih.call haccepted
    · exact (List.append_nil _).symm ▸ ih.rehash k order

/-! ## The restart -/

/-- Every hash has 32 bytes, so no invoice has an empty one as its associated invoice. -/
theorem associated_ne_nil {ok : World → Action → Prop} (hsha : ∀ b : Bytes, (sha256 b).length = 32)
    (h : Reachable ok w) : HoldsThroughout (fun _ inv => inv.associatedInvoice ≠ some []) w := by
  refine Run.invariant (fun w a _ hw => ?_) h HoldsThroughout.start
  have hsurvives : Survives a w fun s => True ∧ HoldsThroughout (fun _ inv =>
      inv.associatedInvoice ≠ some []) s := by
    refine Survives.trivial.holds (fun _ h => h) (fun _ inv _ hfresh => ?_)
      fun s k inv inv' _ _ hal hinv => ?_
    · rw [hfresh.associated]
      exact nofun
    · cases hal with
      | bundle p _ hpair =>
        have hlength : p.length = 32 := by
          unfold Action.pair? at hpair
          split at hpair
          · cases hpair
            exact hsha _
          · cases hpair
        rintro heq
        cases heq
        cases hlength
      | _ => exact hinv
  exact (step_invariant hsurvives ⟨trivial, hw⟩).2

/-- **A restart is transparent to the hold invoices.** The store holds what `update_invoice` saves,
the process starts again from it, and lightningd replays the accepted HTLCs. -/
theorem restart_transparent (hsha : ∀ b : Bytes, (sha256 b).length = 32) (w : World)
    (hreach : Reachable (fun _ _ => True) w) (d : Doc) (hload : w.db.load = some d)
    (hsaved : ∀ k, d.holdInvoices.get? k = (w.holdInvoices.get? k).map HoldInvoice.stored)
    (env : Env) (actions : List Action) (hreplays : ReplaysAccepted w actions) :
    (∀ k inv, w.holdInvoices.get? k = some inv →
      HoldInvoice.fromDict inv.toJson = .ok inv.stored ∧
      (w.reload env).holdInvoices.get? k = some inv.stored) ∧
    w.Alike (runOf actions (w.reload env)) ∧
    (runOf actions (w.reload env)).trace = w.trace ∧
    (∀ payment_hash inv, (runOf actions (w.reload env)).getHoldInvoice payment_hash = some inv →
      ∀ h ∈ inv.incomingHtlcs, h.state = .accepted → CalledBack (calls actions) payment_hash h) ∧
    ∀ env' forward payment_secret request,
      (step (.htlc env' forward payment_secret request) w).Alike
        (step (.htlc env' forward payment_secret request) (runOf actions (w.reload env))) := by
  have hholds : (w.reload env).holdInvoices = d.holdInvoices ∧ (w.reload env).trace = w.trace := by
    unfold World.reload World.restart
    rw [hload]
    exact ⟨rfl, rfl⟩
  have hget : ∀ k, (w.reload env).holdInvoices.get? k
      = (w.holdInvoices.get? k).map HoldInvoice.stored := by
    intro k
    rw [hholds.1]
    exact hsaved k
  have hstart : Replayed w [] (w.reload env) := by
    refine ⟨fun k => ?_, hholds.2, fun _ _ _ _ _ r hr => absurd hr List.not_mem_nil⟩
    rw [hget]
    cases w.holdInvoices.get? k with
    | none => exact .none
    | some inv => exact .some (HoldInvoice.Alike.toStored inv)
  have hafter : Replayed w (calls actions) (runOf actions (w.reload env)) := hstart.run hreplays.only
  refine ⟨fun k inv hinv => ⟨?_, ?_⟩, hafter.alike, hafter.silent, ?_, ?_⟩
  · exact HoldInvoice.fromDict_toJson ((associated_ne_nil hsha hreach).live k inv hinv)
  · rw [hget, hinv]
    rfl
  · intro payment_hash inv hinv h hh hstate
    obtain ⟨inv₀, hinv₀, halike⟩ := hafter.alike.of_some hinv
    obtain ⟨h₀, hh₀, hstored⟩ := halike.mem hh
    have hstate₀ : h₀.stored.state = h.stored.state := congrArg Htlc.state hstored
    have hkey₀ : h₀.stored.key = h.stored.key := congrArg Htlc.key hstored
    obtain ⟨request, hrequest, hhash, hkey⟩ := hreplays.all payment_hash inv₀ hinv₀ h₀ hh₀
      (hstate₀.trans hstate)
    exact hafter.callbacks payment_hash inv hinv h hh request hrequest hhash (hkey.trans hkey₀)
  · exact fun env' forward payment_secret request => hafter.alike.hook env' forward payment_secret request

end

section Sample

open Sample

/-- The sample deployment with a hash of 32 bytes for everything. -/
@[reducible] def hashingDeployment : Deployment :=
  { Sample.deployment with
    sha256 := fun b =>
      if b = Sample.preimage then Sample.paymentHash
      else if b = Sample.prepayPreimage then Sample.prepayHash
      else List.replicate 32 0 }

attribute [local instance] hashingDeployment

theorem hashingDeployment_length (b : Bytes) : (sha256 b).length = 32 := by
  show (if b = Sample.preimage then Sample.paymentHash
    else if b = Sample.prepayPreimage then Sample.prepayHash
    else List.replicate 32 0).length = 32
  split
  · rfl
  · split
    · rfl
    · rfl

/-- The client has a swap and has sent one HTLC for it. -/
def partlyPaid : World :=
  runOf (boot ++ [.request Sample.env (createswap 50000), deliver 1 Sample.paymentHash 10000000])
    World.start

/-- After a restart lightningd offers that HTLC again, in another hook call. -/
def replayedHtlcs : List Action :=
  [.htlc Sample.env false none { htlcFor 1 Sample.paymentHash 10000000 with serial := 2 }]

/-- The HTLC is matched, and the rest of the payment funds the invoice as if nothing had happened. -/
theorem restart_transparent_replayed :
    ((runOf replayedHtlcs (partlyPaid.reload Sample.env)).trace = partlyPaid.trace) ∧
      (step (deliver 3 Sample.paymentHash 39728000) partlyPaid).Alike
        (step (deliver 3 Sample.paymentHash 39728000)
          (runOf replayedHtlcs (partlyPaid.reload Sample.env))) := by
  have hstored : (partlyPaid.db.load.any fun d =>
      d.holdInvoices = partlyPaid.holdInvoices.stored) = true := by decide +kernel
  obtain ⟨d, hload, hd⟩ := (Option.any_eq_true _ _).mp hstored
  have hd : d.holdInvoices = partlyPaid.holdInvoices.stored := of_decide_eq_true hd
  have haccepted : ((partlyPaid.getHoldInvoice Sample.paymentHash).any fun inv =>
      inv.incomingHtlcs.elems.any fun h => h.state = .accepted ∧
        h.key = (htlcFor 1 Sample.paymentHash 10000000).htlc.key) = true := by decide +kernel
  have honly : (partlyPaid.holdInvoices.dict.items.all fun item => item.2.incomingHtlcs.elems.all
      fun h => item.1 = hex Sample.paymentHash ∧
        h.key = (htlcFor 1 Sample.paymentHash 10000000).htlc.key) = true := by decide +kernel
  have hreplays : ReplaysAccepted partlyPaid replayedHtlcs := by
    refine ⟨fun a ha => .inl ?_, fun payment_hash inv hinv h hh _ => ?_⟩
    · obtain rfl := List.mem_singleton.mp ha
      refine ⟨_, _, _, rfl, ?_⟩
      obtain ⟨inv, hinv, hany⟩ := (Option.any_eq_true _ _).mp haccepted
      obtain ⟨h, hh, hmatch⟩ := List.any_eq_true.mp hany
      obtain ⟨hstate, hkey⟩ := of_decide_eq_true hmatch
      exact ⟨inv, hinv, h, hh, hstate, hkey⟩
    · have hitem := List.all_eq_true.mp honly _ (Dict.mem_of_get? hinv)
      obtain ⟨hhash, hkey⟩ := of_decide_eq_true (List.all_eq_true.mp hitem h hh)
      exact ⟨_, List.mem_singleton_self _, (hex_inj.mp hhash).symm, hkey.symm⟩
  obtain ⟨-, -, hsilent, -, hhook⟩ := restart_transparent hashingDeployment_length partlyPaid
    (reachable_runOf _) d hload (fun k => by rw [hd, HoldInvoices.get?_stored]) Sample.env replayedHtlcs
    hreplays
  exact ⟨hsilent, hhook _ _ _ _⟩

end Sample

end SubswapProvider
