import SubswapProvider.Throughout
import SubswapProvider.Hook
import SubswapProvider.Bookkeeping

/-!
# Every hook request is accounted for

A request of lightningd gets its result in the hook, in the exception handler of the hook, or later,
when its HTLC is settled or cancelled; until then the HTLC holds it as its callback. The handler does
not know what has been done before: it answers a request again when the write behind `fail` does not go
through, and a replayed HTLC gets its new request as callback in whatever state the store has it
(`replays_settled`). In every run whose hook calls stay clear of the two, each request gets at most one
result, and one without a result is held by an accepted HTLC (`requests_accounted`).
-/

namespace SubswapProvider

open Deployment Effect

/-- `set_result` is called on a request. -/
def Event.resultFor (r : Request) : Event → Bool
  | .answer r' _ => r' = r
  | .refused r' _ => r' = r
  | _ => false

/-- An event that is no call of `set_result`. -/
def Event.NoResult (e : Event) : Prop := ∀ r, e.resultFor r = false

theorem Event.Plain.noResult {e : Event} (he : e.Plain) : e.NoResult := by
  intro r
  cases e with
  | answer => exact he.elim
  | refused => exact he.elim
  | _ => rfl

/-- The number of results a request has got. -/
def results (r : Request) (said : List Event) : Nat := said.countP (Event.resultFor r)

theorem results_noResult {e : Event} (he : e.NoResult) (r : Request) (said : List Event) :
    results r (e :: said) = results r said := by
  unfold results
  rw [List.countP_cons, he r]
  rfl

@[simp] theorem results_answer (r r' : Request) (res : HookResult) (said : List Event) :
    results r (.answer r' res :: said) = results r said + if r' = r then 1 else 0 := by
  unfold results
  rw [List.countP_cons]
  simp [Event.resultFor]

/-- Only the requests that have come are answered, and each at most once. -/
def AtMostOne (past : List Request) (said : List Event) : Prop :=
  ∀ r, results r said ≤ 1 ∧ (results r said = 1 → r ∈ past)

/-- What an invoice holds of the requests: the callback of an accepted HTLC is a request for this very
HTLC, without a result. -/
def HoldInvoice.Owes (past : List Request) (said : List Event) (inv : HoldInvoice) : Prop :=
  ∀ x ∈ inv.incomingHtlcs, x.state = .accepted → ∀ r, x.requestCallback = some r →
    r ∈ past ∧ results r said = 0 ∧ r.htlc.key = x.key ∧ r.htlc.paymentHash = inv.paymentHash

/-- No callback is stored. -/
def Doc.Bare (d : Doc) : Prop :=
  ∀ k inv, d.holdInvoices.get? k = some inv → ∀ x ∈ inv.incomingHtlcs, x.requestCallback = none

structure Accounted (past : List Request) (w : World) : Prop where
  log : AtMostOne past w.trace
  logs : ∀ v ∈ w.views, AtMostOne past v.said
  owed : ∀ k inv, w.holdInvoices.get? k = some inv → inv.Owes past w.trace
  stored : ∀ d, w.Stores d → d.Bare
  views : ∀ v ∈ w.views, ∀ d, v.db.disk = some d → d.Bare

/-- The request has its result, or is held by an accepted HTLC of its invoice. -/
def World.Accounts (r : Request) (w : World) : Prop :=
  w.Answered r ∨ ∃ inv, w.getHoldInvoice r.htlc.paymentHash = some inv ∧
    ∃ x ∈ inv.incomingHtlcs, x.state = .accepted ∧ x.requestCallback = some r

variable {past : List Request} {r : Request} {w w' : World} {inv : HoldInvoice}

theorem AtMostOne.mono {said : List Event} (h : AtMostOne past said) (r : Request) :
    AtMostOne (past ++ [r]) said := by
  intro r'
  refine ⟨(h r').1, fun hr => ?_⟩
  exact List.mem_append_left _ ((h r').2 hr)

theorem AtMostOne.cons {e : Event} {said : List Event} (he : e.NoResult) (h : AtMostOne past said) :
    AtMostOne past (e :: said) := by
  intro r
  rw [results_noResult he]
  exact h r

/-- A first result. -/
theorem AtMostOne.answer {said : List Event} {res : HookResult} (h : AtMostOne past said)
    (hr : r ∈ past) (hnone : results r said = 0) : AtMostOne past (.answer r res :: said) := by
  intro r'
  rw [results_answer]
  split
  · next heq =>
    subst heq
    exact ⟨by omega, fun _ => hr⟩
  · simpa using h r'

theorem not_answered (hnone : results r w.trace = 0) : ¬ w.Answered r := by
  rintro ⟨res, hres⟩
  have hno := List.countP_eq_zero.mp hnone _ hres
  simp [Event.resultFor] at hno

/-- `set_result` on a request without a result. -/
theorem answered_open {res : HookResult} (hnone : results r w.trace = 0) :
    w.answered r res = w.say (.answer r res) := by
  unfold World.answered
  rw [if_neg (not_answered hnone)]

namespace Accounted

theorem mono (hw : Accounted past w) (r : Request) : Accounted (past ++ [r]) w where
  log := hw.log.mono r
  logs v hv := (hw.logs v hv).mono r
  owed k inv hinv x hx hstate r' hr' := by
    obtain ⟨hpast, hrest⟩ := hw.owed k inv hinv x hx hstate r' hr'
    exact ⟨List.mem_append_left _ hpast, hrest⟩
  stored := hw.stored
  views := hw.views

/-- A request that is new has no result yet, and no HTLC has it. -/
theorem unused (hw : Accounted past w) (hr : r ∉ past) : results r w.trace = 0 := by
  obtain ⟨hle, hone⟩ := hw.log r
  by_contra hne
  exact hr (hone (by omega))

/-- Saying something. -/
theorem say {e : Event} (hw : Accounted past w) (hlog : AtMostOne past (e :: w.trace))
    (howed : ∀ k inv, w.holdInvoices.get? k = some inv → inv.Owes past (e :: w.trace)) :
    Accounted past (w.say e) where
  log := hlog
  logs v hv := by
    rcases List.mem_cons.mp hv with rfl | hv
    · exact hlog
    · exact hw.logs v hv
  owed := howed
  stored := hw.stored
  views v hv d hd := by
    rcases List.mem_cons.mp hv with rfl | hv
    · exact hw.stored d (.inl hd)
    · exact hw.views v hv d hd

theorem sayNoResult {e : Event} (he : e.NoResult) (hw : Accounted past w) :
    Accounted past (w.say e) := by
  refine hw.say (hw.log.cons he) fun k inv hinv x hx hstate r hr => ?_
  rw [results_noResult he]
  exact hw.owed k inv hinv x hx hstate r hr

/-- Giving a request its result, when no accepted HTLC holds it. -/
theorem answered {res : HookResult} (hw : Accounted past w) (hr : r ∈ past)
    (hnone : results r w.trace = 0)
    (hfree : ∀ k inv, w.holdInvoices.get? k = some inv → ∀ x ∈ inv.incomingHtlcs,
      x.state = .accepted → x.requestCallback ≠ some r) : Accounted past (w.answered r res) := by
  rw [answered_open hnone]
  refine hw.say (hw.log.answer hr hnone) fun k inv hinv x hx hstate r' hr' => ?_
  obtain ⟨hpast, hzero, hrest⟩ := hw.owed k inv hinv x hx hstate r' hr'
  have hne : r ≠ r' := by
    rintro rfl
    exact hfree k inv hinv x hx hstate hr'
  refine ⟨hpast, ?_, hrest⟩
  rw [results_answer, if_neg hne]
  exact hzero

/-- Changing one invoice object. -/
theorem mutHoldInvoice {k : Hex} {f : HoldInvoice → HoldInvoice}
    {hf : ∀ inv, (f inv).paymentHash = inv.paymentHash} (hw : Accounted past w)
    (howed : ∀ inv, w.holdInvoices.get? k = some inv → inv.Owes past w.trace →
      (f inv).Owes past w.trace) : Accounted past (w.mutHoldInvoice k f hf) where
  log := hw.log
  logs := hw.logs
  owed k' inv' hinv' := by
    have hget := (World.get?_mutHoldInvoice k').symm.trans hinv'
    split at hget
    · obtain ⟨inv, hinv, rfl⟩ := Option.map_eq_some_iff.mp hget
      exact howed inv hinv (hw.owed k inv hinv)
    · exact hw.owed k' inv' hget
  stored := hw.stored
  views := hw.views

theorem assign (ref : SwapRef) (f : SwapData → SwapData) (hw : Accounted past w) :
    Accounted past (w.assign ref f) where
  log := by
    rw [World.assign_trace]
    exact hw.log
  logs v hv := by
    rw [(Recorded.assign w ref f).views] at hv
    exact hw.logs v hv
  owed k inv hinv := by
    rw [World.assign_holdInvoices] at hinv
    rw [World.assign_trace]
    exact hw.owed k inv hinv
  stored d hd := by
    obtain ⟨d₀, hd₀, hholds⟩ := hd.of_assign
    intro k inv hinv
    exact hw.stored d₀ hd₀ k inv (hholds ▸ hinv)
  views v hv := by
    rw [(Recorded.assign w ref f).views] at hv
    exact hw.views v hv

theorem restart (env : Env) {view : View} (hview : view = ⟨w.db, w.trace⟩ ∨ view ∈ w.views)
    (hw : Accounted past w) : Accounted past (w.restart env view) := by
  have hsaid : AtMostOne past view.said := by
    rcases hview with rfl | hview
    · exact hw.log
    · exact hw.logs view hview
  have hbare : ∀ d, view.db.disk = some d → d.Bare := by
    intro d hd
    rcases hview with rfl | hview
    · exact hw.stored d (.inl hd)
    · exact hw.views view hview d hd
  cases hload : view.db.load with
  | none =>
    unfold World.restart
    rw [hload]
    exact hw
  | some d =>
    have hdisk : view.db.disk = some d := by
      unfold Db.load at hload
      split at hload
      · cases hload
      · exact hload
    have hstored : ∀ d', (w.restart env view).Stores d' → d'.Bare := by
      intro d' hd'
      exact hbare d' (hd'.of_restart hload)
    unfold World.restart at hstored ⊢
    rw [hload] at hstored ⊢
    refine ⟨hsaid, fun v hv => ?_, fun k inv hinv x hx _ r hr => ?_, hstored, fun v hv => ?_⟩
    · cases List.mem_singleton.mp hv
      exact hsaid
    · -- what was stored has no callbacks
      rw [hbare d hdisk k inv hinv x hx] at hr
      cases hr
    · cases List.mem_singleton.mp hv
      exact hbare

end Accounted

/-! ## What the other steps do -/

section

variable [Deployment] {a : Action} {w₀ : World}

/-- A step that is no hook call says nothing to a request, but for the HTLCs it settles or cancels. -/
theorem Move.silent_or_resolves (hmove : Move a w₀ w w') (ha : a.hookRequest? = none) :
    (w'.trace = w.trace ∨ ∃ e : Event, e.NoResult ∧ w'.trace = e :: w.trace) ∨
    ∃ k invoice htlc request st res, w.holdInvoices.get? k = some invoice ∧
      htlc ∈ invoice.incomingHtlcs ∧ htlc.state = .accepted ∧ htlc.requestCallback = some request ∧
      st ≠ .accepted ∧
      w' = (w.mutHoldInvoice k (·.setHtlcState htlc.key st) fun _ => rfl).answered request res := by
  cases hmove with
  | setPreimage k v => exact .inl (.inl (Recorded.setPreimage w k v).trace)
  | popPreimage k _ => exact .inl (.inl (Recorded.popPreimage w k).trace)
  | setInvoice k v => exact .inl (.inl (Recorded.setInvoice w k v).trace)
  | popInvoice k => exact .inl (.inl (Recorded.popInvoice w k).trace)
  | createHold invoice => exact .inl (.inl (Recorded.setHoldInvoice w invoice).trace)
  | updateHold k invoice => exact .inl (.inl (Recorded.replaceHold w k invoice).trace)
  | bundle k invoice p => exact .inl (.inl (Recorded.replaceHold w k _).trace)
  | popHold k => exact .inl (.inl (Recorded.popHoldInvoice w k).trace)
  | popSwap k => exact .inl (.inl (Recorded.popSwap w k).trace)
  | assign ref f => exact .inl (.inl (Recorded.assign w ref f).trace)
  | resolveHtlc k invoice htlc request st res hinvoice hmem hstate hrequest hres =>
    refine .inr ⟨k, invoice, htlc, request, st, res, hinvoice, hmem, hstate, hrequest, ?_, rfl⟩
    rintro rfl
    cases hres
  | answerHook request res hrequest =>
    rw [ha] at hrequest
    cases hrequest
  | say e he => exact .inl (.inr ⟨e, he.noResult, rfl⟩)
  | payInvoice key => exact .inl (.inr ⟨_, fun _ => rfl, rfl⟩)
  | _ => exact .inl (.inl rfl)

/-- An invoice owes no more when its HTLCs change. -/
theorem Alters.owes {k : Hex} {inv inv' : HoldInvoice} {said : List Event}
    (hal : Alters a w k inv inv') (ha : a.hookRequest? = none) (hinv : inv.Owes past said) :
    inv'.Owes past said := by
  cases hal with
  | replay request existing hrequest => rw [ha] at hrequest; cases hrequest
  | add request now hrequest => rw [ha] at hrequest; cases hrequest
  | fund request hrequest => rw [ha] at hrequest; cases hrequest
  | resolve htlc request st res _ _ _ hres =>
    intro x hx hstate r hr
    obtain ⟨b, hb, rfl⟩ := HoldInvoice.mem_setHtlcState.mp hx
    split at hstate
    · cases hres <;> cases hstate
    · next hne =>
      rw [if_neg hne] at hr ⊢
      exact hinv b hb hstate r hr
  | reorder order =>
    intro x hx hstate r hr
    exact hinv x (HtlcSet.mem_reorder.mp hx) hstate r hr
  | _ => exact hinv

omit [Deployment] in
/-- Settling or cancelling an accepted HTLC gives its request the first result. -/
theorem Accounted.resolve {k : Hex} {invoice : HoldInvoice} {htlc : Htlc} {request : Request}
    {st : HtlcState} {res : HookResult} (hinvoice : w.holdInvoices.get? k = some invoice)
    (hmem : htlc ∈ invoice.incomingHtlcs) (hstate : htlc.state = .accepted)
    (hrequest : htlc.requestCallback = some request) (hst : st ≠ .accepted)
    (hw : Accounted past w) :
    Accounted past ((w.mutHoldInvoice k (·.setHtlcState htlc.key st) fun _ => rfl).answered request
      res) := by
  obtain ⟨hpast, hzero, hkey, hhash⟩ := hw.owed k invoice hinvoice htlc hmem hstate request hrequest
  have hchanged : Accounted past (w.mutHoldInvoice k (·.setHtlcState htlc.key st) fun _ => rfl) := by
    refine hw.mutHoldInvoice fun inv _ hinv x hx hx' r hr => ?_
    obtain ⟨b, hb, rfl⟩ := HoldInvoice.mem_setHtlcState.mp hx
    split at hx'
    · exact absurd hx' hst
    · next hne =>
      rw [if_neg hne] at hr ⊢
      exact hinv b hb hx' r hr
  refine hchanged.answered hpast hzero fun k' inv hinv x hx hx' hr => ?_
  -- the request is for one HTLC of one invoice, and that HTLC is no longer accepted
  obtain ⟨-, -, hkey', hhash'⟩ := hchanged.owed k' inv hinv x hx hx' request hr
  have hk : k' = k := by
    rw [← HoldInvoices.hex_paymentHash hinv, ← HoldInvoices.hex_paymentHash hinvoice, ← hhash', hhash]
  subst hk
  have hget := (World.get?_mutHoldInvoice k').symm.trans hinv
  rw [if_pos rfl, hinvoice] at hget
  cases hget
  obtain ⟨b, hb, rfl⟩ := HoldInvoice.mem_setHtlcState.mp hx
  split at hx'
  · exact hst hx'
  · next hne =>
    rw [if_neg hne, hkey] at hkey'
    exact hne hkey'.symm

theorem Accounted.move (ha : a.hookRequest? = none) (hmove : Move a w₀ w w')
    (hw : Accounted past w) : Accounted past w' := by
  rcases hmove.silent_or_resolves ha with hsilent | ⟨k, invoice, htlc, request, st, res, hinvoice, hmem,
    hstate, hrequest, hst, rfl⟩
  · have hlog : AtMostOne past w'.trace := by
      rcases hsilent with heq | ⟨e, he, heq⟩
      · rw [heq]; exact hw.log
      · rw [heq]; exact hw.log.cons he
    have howes : ∀ inv : HoldInvoice, inv.Owes past w.trace → inv.Owes past w'.trace := by
      intro inv hinv x hx hstate r hr
      have hsame : results r w'.trace = results r w.trace := by
        rcases hsilent with heq | ⟨e, he, heq⟩
        · rw [heq]
        · rw [heq, results_noResult he]
      rw [hsame]
      exact hinv x hx hstate r hr
    have hbare : ∀ d, w'.Stores d → d.Bare := by
      intro d hd k inv hinv x hx
      rcases hmove.storedOrigin hd hinv with ⟨d₀, hd₀, hinv₀⟩ | ⟨live, -, rfl⟩
      · exact hw.stored d₀ hd₀ k inv hinv₀ x hx
      · obtain ⟨b, hb, rfl⟩ := HoldInvoice.mem_stored.mp hx
        rfl
    refine ⟨hlog, fun v hv => ?_, fun k inv hinv => ?_, hbare, fun v hv d hd => ?_⟩
    · rcases hmove.told.newView hv with hv | ⟨-, hsaid⟩
      · exact hw.logs v hv
      · rw [hsaid]; exact hlog
    · apply howes
      cases hmove.holdOrigin hinv with
      | same hinv => exact hw.owed k inv hinv
      | altered inv₀ hinv₀ hal => exact hal.owes ha (hw.owed k inv₀ hinv₀)
      | fresh hfresh =>
        intro x hx
        rw [hfresh.htlcs] at hx
        exact absurd hx (HtlcSet.notMem_empty x)
    · rcases hmove.told.newView hv with hv | ⟨hdisk, -⟩
      · exact hw.views v hv d hd
      · exact hbare d (.inl (hdisk ▸ hd))
  · exact hw.resolve hinvoice hmem hstate hrequest hst

theorem survives_accounted (ha : a.hookRequest? = none) : Survives a w₀ (Accounted past) where
  move _ _ hmove hw := hw.move ha hmove
  restart env _ _ hview hw := hw.restart env hview
  create _ _ _ _ _ _ _ hw _ _ := hw.sayNoResult fun _ => rfl
  send _ _ _ ref _ _ _ _ hw _ _ := (hw.assign ref _).sayNoResult fun _ => rfl

/-! ## The hook call -/

/-- A hook call for an HTLC the invoice knows finds it accepted; for a new one the check does not
raise, and the write behind it goes through. -/
def HookAccounts (w : World) : Action → Prop
  | .htlc env false payment_secret request =>
      ∀ invoice, w.getHoldInvoice request.htlc.paymentHash = some invoice →
        match invoice.findHtlc request.htlc.key with
        | some existing => existing.state = .accepted
        | none => (∃ accepted, checkHtlc env invoice payment_secret request.htlc = .ok accepted) ∧
            env.writeFails w.db.calls = false
  | _ => True

variable {env : Env} {invoice : HoldInvoice} {payment_secret : Option Bytes}

omit [Deployment] in
theorem World.Accounts.same (h : w.Accounts r) (hs : SameHolds w w') : w'.Accounts r := by
  rcases h with ⟨res, hres⟩ | ⟨inv, hinv, hrest⟩
  · exact .inl ⟨res, hs.trace ▸ hres⟩
  · exact .inr ⟨inv, (hs.holdInvoices _).trans hinv, hrest⟩

/-- The invoice is stored again, and the write goes through. -/
theorem update_accounts {payment_hash : Bytes} (hw : Accounted past w) (hr : w.Accounts r)
    (hsome : (w.holdInvoices.get? (hex payment_hash)).isSome = true)
    (hwrites : env.writeFails w.db.calls = false) :
    Triple (· = w) (updateInvoice env payment_hash) (fun _ s => Accounted past s ∧ s.Accounts r)
      fun _ _ => False := by
  have hmoves : Moves (Move .mainLoop w) (updateInvoice env payment_hash) :=
    moves_updateInvoice env payment_hash
  have hkeeps : Keeps (Accounted past) (updateInvoice env payment_hash) :=
    hmoves.keeps fun _ _ hmove hs => hs.move rfl hmove
  have hreturns : Triple (Stays (hex payment_hash) w.db) (updateInvoice env payment_hash)
      (fun _ _ => True) (fun _ _ => False) := updateInvoice_returns hwrites
  refine (hkeeps.and ((same_update env payment_hash w).and hreturns)).conseq (fun s hs => ?_)
    (fun _ s hs => ⟨hs.1, hr.same hs.2.1⟩) fun _ s hs => hs.2.2
  subst hs
  exact ⟨hw, .refl s, hsome, rfl⟩

omit [Deployment] in
/-- The HTLC of a new request has been added. -/
theorem Accounted.withHtlc (hw : Accounted past w) (hr : r ∈ past) (hzero : results r w.trace = 0)
    (hinvoice : w.getHoldInvoice r.htlc.paymentHash = some invoice)
    (hfind : invoice.findHtlc r.htlc.key = none) : Accounted past (w.withHtlc env r) := by
  refine hw.mutHoldInvoice fun inv hinv howes x hx hstate r' hr' => ?_
  have heq : inv = invoice := Option.some.inj (hinv.symm.trans hinvoice)
  subst heq
  rcases (HoldInvoice.mem_addHtlc hfind).mp hx with hx | rfl
  · exact howes x hx hstate r' hr'
  · cases hr'
    exact ⟨hr, hzero, rfl, (hex_inj.mp (HoldInvoices.hex_paymentHash hinv)).symm⟩

omit [Deployment] in
/-- A known HTLC has its new callback. -/
theorem Accounted.replayed {existing : Htlc} (hw : Accounted past w) (hr : r ∈ past)
    (hzero : results r w.trace = 0) (hkey : existing.key = r.htlc.key) :
    Accounted past (w.mutHoldInvoice (hex r.htlc.paymentHash) (·.setHtlcCallback existing.key r)
      fun _ => rfl) := by
  refine hw.mutHoldInvoice fun inv hinv howes x hx hstate r' hr' => ?_
  obtain ⟨b, hb, rfl⟩ := HoldInvoice.mem_setHtlcCallback.mp hx
  split at hr'
  · next hk =>
    rw [if_pos hk] at hstate ⊢
    cases hr'
    have hhash : r.htlc.paymentHash = inv.paymentHash :=
      (hex_inj.mp (HoldInvoices.hex_paymentHash hinv)).symm
    exact ⟨hr, hzero, (hk.trans hkey).symm, hhash⟩
  · next hk =>
    rw [if_neg hk] at hstate ⊢
    exact howes b hb hstate r' hr'

theorem hook_accounts {forward : Bool} {request : Request} (hw : Accounted past w)
    (hnew : request ∉ past) (hok : HookAccounts w (.htlc env forward payment_secret request)) :
    Accounted (past ++ [request]) (step (.htlc env forward payment_secret request) w) ∧
      (step (.htlc env forward payment_secret request) w).Accounts request := by
  let Q : World → Prop := fun s => Accounted (past ++ [request]) s ∧ s.Accounts request
  have hw' : Accounted (past ++ [request]) w := hw.mono request
  have hzero : results request w.trace = 0 := hw.unused hnew
  have hpast : request ∈ past ++ [request] := by simp
  have hcontinue : Triple (· = w) (setResult request .continue_) (fun _ => Q) fun _ => Q := by
    intro s hs
    subst hs
    rw [setResult_run, if_neg (not_answered hzero)]
    refine ⟨hw'.answered hpast hzero fun k inv hinv x hx hstate hr => ?_, .inl ⟨.continue_, ?_⟩⟩
    · exact hnew (hw.owed k inv hinv x hx hstate request hr).1
    · rw [answered_open hzero]
      exact List.mem_cons_self
  refine Triple.final (P := (· = w)) (R := Q) ?_ rfl
  show Triple (· = w) (pluginHtlcAcceptedHook env forward payment_secret request) (fun _ => Q)
    fun _ => Q
  unfold pluginHtlcAcceptedHook
  cases forward with
  | true => exact hcontinue
  | false =>
    refine Triple.getBind fun s hs => ?_
    subst hs
    cases hinvoice : s.getHoldInvoice request.htlc.paymentHash with
    | none => exact hcontinue
    | some invoice =>
      have hhash : invoice.paymentHash = request.htlc.paymentHash :=
        hex_inj.mp (HoldInvoices.hex_paymentHash hinvoice)
      have hok := hok invoice hinvoice
      -- nothing raises, so the handler does not come into it
      refine Triple.tryCatch (R := fun _ _ => False) ?_ fun _ _ h => h.elim
      intro s' hs'
      subst hs'
      cases hfind : invoice.findHtlc request.htlc.key with
      | some existing =>
        rw [hfind] at hok
        obtain ⟨hmem, hkey⟩ := HtlcSet.mem_of_find? hfind
        rw [bind_ok (handleHtlc_known hhash hfind)]
        refine ⟨hw'.replayed hpast hzero hkey, .inr ⟨invoice.setHtlcCallback existing.key request, ?_,
          { existing with requestCallback := some request }, ?_, hok, rfl⟩⟩
        · apply (World.get?_mutHoldInvoice _).trans
          rw [if_pos rfl]
          exact congrArg (Option.map _) hinvoice
        · exact HoldInvoice.mem_setHtlcCallback.mpr ⟨existing, hmem, if_pos rfl⟩
      | none =>
        rw [hfind] at hok
        obtain ⟨⟨accepted, hcheck⟩, hwrites⟩ := hok
        have hadd : Accounted (past ++ [request]) (s'.withHtlc env request) :=
          hw'.withHtlc hpast hzero hinvoice hfind
        have hget : (s'.withHtlc env request).getHoldInvoice request.htlc.paymentHash
            = some (invoice.addHtlc (request.newHtlc env)) := World.get?_withHtlc hinvoice
        have hmem : request.newHtlc env ∈ (invoice.addHtlc (request.newHtlc env)).incomingHtlcs :=
          (HoldInvoice.mem_addHtlc hfind).mpr (.inr rfl)
        cases accepted with
        | false =>
          have hresolved : Accounted (past ++ [request])
              ((s'.withRejected env request).answered request (.fail "400F")) :=
            hadd.resolve hget hmem rfl rfl nofun
          have hopen : results request (s'.withRejected env request).trace = 0 := hzero
          have hreturns : handleHtlc env invoice payment_secret request s' =
              .ok true ((s'.withRejected env request).answered request (.fail "400F")) := by
            rw [handleHtlc_rejects hhash hfind hcheck,
              bind_ok ((setResult_run _ _ _).trans (if_neg (not_answered hopen)))]
            rfl
          rw [bind_ok hreturns]
          rw [answered_open hopen] at hresolved ⊢
          refine update_accounts hresolved (.inl ⟨.fail "400F", List.mem_cons_self⟩) ?_ hwrites _ rfl
          show (((s'.withRejected env request)).getHoldInvoice invoice.paymentHash).isSome = true
          rw [hhash, World.get?_withRejected hinvoice]
          rfl
        | true =>
          have hreturns := handleHtlc_admits (w := s') hhash hfind hcheck
          by_cases hfull : (invoice.addHtlc (request.newHtlc env)).isFullyFunded = true
          · rw [if_pos hfull] at hreturns
            rw [bind_ok hreturns]
            have hfunded : Accounted (past ++ [request]) ((s'.withHtlc env request).mutHoldInvoice
                (hex request.htlc.paymentHash) (·.setFundingStatus .funded) fun _ => rfl) :=
              hadd.mutHoldInvoice fun _ _ howes => howes
            have hget' : ((s'.withHtlc env request).mutHoldInvoice (hex request.htlc.paymentHash)
                (·.setFundingStatus .funded) fun _ => rfl).getHoldInvoice request.htlc.paymentHash
                = some ((invoice.addHtlc (request.newHtlc env)).setFundingStatus .funded) := by
              apply (World.get?_mutHoldInvoice _).trans
              rw [if_pos rfl]
              exact congrArg (Option.map _) hget
            refine update_accounts (hfunded.sayNoResult fun _ => rfl)
              (.inr ⟨_, hget', _, hmem, rfl, rfl⟩) ?_ hwrites _ rfl
            rw [hhash]
            exact Option.isSome_of_mem hget'
          · rw [if_neg hfull] at hreturns
            rw [bind_ok hreturns]
            refine update_accounts hadd (.inr ⟨_, hget, _, hmem, rfl, rfl⟩) ?_ hwrites _ rfl
            rw [hhash]
            exact Option.isSome_of_mem hget

/-! ## The run -/

/-- The requests of the hook calls. -/
def requestsOf (actions : List Action) : List Request := actions.filterMap Action.hookRequest?

/-- A step gives no request a second result, and a hook call that has returned has its request
answered or held. -/
structure Accounts (w : World) (a : Action) : Prop where
  once : ∀ r, results r (step a w).trace ≤ 1
  held : ∀ r, a.hookRequest? = some r → (step a w).Accounts r

theorem step_accounts (hw : Accounted past w) (hnew : ∀ r, a.hookRequest? = some r → r ∉ past)
    (hok : HookAccounts w a) :
    Accounted (past ++ a.hookRequest?.toList) (step a w) ∧ Accounts w a := by
  cases hrequest : a.hookRequest? with
  | none =>
    have hstep : Accounted past (step a w) := step_invariant (survives_accounted hrequest) hw
    have hpast : past ++ (none : Option Request).toList = past := List.append_nil past
    rw [hpast]
    exact ⟨hstep, fun r => (hstep.log r).1, fun r hr => nomatch hrequest.symm.trans hr⟩
  | some request =>
    cases a with
    | htlc env forward payment_secret r =>
      cases hrequest
      obtain ⟨hstep, hheld⟩ := hook_accounts hw (hnew request rfl) hok
      exact ⟨hstep, fun r => (hstep.log r).1, fun r' hr' => Option.some.inj hr' ▸ hheld⟩
    | _ => cases hrequest

omit [Deployment] in
theorem accounted_start : Accounted [] World.start := by
  have hbare : ∀ d, World.start.Stores d → d.Bare := by
    intro d hd k inv hinv
    rcases hd with hd | hd <;> cases hd <;> cases hinv
  have hlog : AtMostOne [] World.start.trace := by
    intro r
    exact ⟨Nat.zero_le 1, fun h => nomatch h⟩
  refine ⟨hlog, fun v hv => ?_, fun k inv hinv => (nomatch hinv), hbare, fun v hv d hd => ?_⟩
  · cases List.mem_singleton.mp hv
    exact hlog
  · cases List.mem_singleton.mp hv
    exact hbare d (.inl hd)

/-- **Every hook request is accounted for**, in every run whose hook calls, each with a request object
of its own, find known HTLCs accepted and have the new ones checked and saved. -/
theorem requests_accounted (actions : List Action) (hd : (requestsOf actions).Nodup)
    (hok : AllowedRun HookAccounts World.start actions) :
    AllowedRun Accounts World.start actions := by
  have hrun : ∀ (actions : List Action) past w, Accounted past w →
      (past ++ requestsOf actions).Nodup → AllowedRun HookAccounts w actions →
      AllowedRun Accounts w actions := by
    intro actions
    induction actions with
    | nil => exact fun _ _ _ _ _ => trivial
    | cons a actions ih =>
      intro past w hw hd hok
      have hcons : requestsOf (a :: actions) = a.hookRequest?.toList ++ requestsOf actions := by
        unfold requestsOf
        cases h : a.hookRequest? <;> simp [h]
      rw [hcons, ← List.append_assoc] at hd
      have hnew : ∀ r, a.hookRequest? = some r → r ∉ past := by
        intro r hr hmem
        have hdisjoint := List.nodup_append.mp (List.nodup_append.mp hd).1
        exact hdisjoint.2.2 r hmem r (by simp [hr]) rfl
      obtain ⟨hstep, haccounts⟩ := step_accounts hw hnew hok.1
      exact ⟨haccounts, ih _ _ hstep hd hok.2⟩
  exact hrun actions [] World.start accounted_start (by simpa using hd) hok

end

section Sample

open Sample

attribute [local instance] Sample.deployment

/-- The swap has been created. -/
def createdSwap : List Action := boot ++ [.request Sample.env (createswap 50000)]

/-- The request with which an HTLC comes again. -/
def replayed (request : Request) (n : Nat) : Request := { request with serial := n }

/-- lightningd has not seen the result of the prepay HTLC, and brings it again after a restart. -/
def replayPrepay : Action :=
  .htlc Sample.env false (some (List.replicate 32 6)) (replayed (htlcFor 2 prepayHash 272000) 3)

/-- An HTLC with no payment secret, while the datastore takes no writes. -/
def turnDown : Action :=
  .htlc { Sample.env with writeFails := fun _ => true } false none (htlcFor 1 paymentHash 49728000)

/-- The HTLC is stored as `SETTLED`: its new request is never answered. And when an HTLC is turned down
and the write fails, its request is answered twice. -/
theorem requests_unaccounted :
    ((requestsOf (fundedRun ++ [.reload Sample.env, replayPrepay])).Nodup ∧
      ¬ AllowedRun Accounts World.start (fundedRun ++ [.reload Sample.env, replayPrepay])) ∧
    ((requestsOf (createdSwap ++ [turnDown])).Nodup ∧
      ¬ AllowedRun Accounts World.start (createdSwap ++ [turnDown])) := by
  refine ⟨⟨by decide +kernel, fun h => ?_⟩, by decide +kernel, fun h => ?_⟩
  · have h : AllowedRun Accounts World.start ((fundedRun ++ [.reload Sample.env]) ++ [replayPrepay]) := by
      simpa using h
    rcases h.last.held _ rfl with hanswered | ⟨inv, hinv, x, hx, hstate, hrequest⟩
    · revert hanswered
      decide +kernel
    · have hnone : ((step replayPrepay (runOf (fundedRun ++ [.reload Sample.env]) World.start)).getHoldInvoice
          prepayHash).all (fun inv => inv.incomingHtlcs.elems.all fun x => x.state ≠ .accepted) = true := by
        decide +kernel
      have hinv' : (step replayPrepay (runOf (fundedRun ++ [.reload Sample.env])
          World.start)).getHoldInvoice prepayHash = some inv := hinv
      rw [hinv'] at hnone
      exact absurd hstate (of_decide_eq_true (List.all_eq_true.mp hnone x hx))
  · have honce := h.last.once (htlcFor 1 paymentHash 49728000)
    revert honce
    decide +kernel

/-- The client pays its main invoice. -/
theorem requests_accounted_paid :
    AllowedRun Accounts World.start (createdSwap ++ [deliver 1 paymentHash 49728000]) := by
  refine requests_accounted _ (by decide +kernel) ⟨trivial, trivial, trivial, trivial, ?_, trivial⟩
  intro invoice hinvoice
  have hchecks : ((runOf createdSwap World.start).getHoldInvoice paymentHash).all (fun invoice =>
      (invoice.findHtlc (htlcFor 1 paymentHash 49728000).htlc.key).isNone &&
      match checkHtlc Sample.env invoice (some (List.replicate 32 6))
        (htlcFor 1 paymentHash 49728000).htlc with
      | .ok _ => true
      | .error _ => false) = true := by decide +kernel
  have hinvoice' : (runOf createdSwap World.start).getHoldInvoice paymentHash = some invoice := hinvoice
  rw [hinvoice'] at hchecks
  obtain ⟨hfind, hcheck⟩ := Bool.and_eq_true_iff.mp hchecks
  rw [Option.isNone_iff_eq_none.mp hfind]
  refine ⟨?_, rfl⟩
  cases hresult : checkHtlc Sample.env invoice (some (List.replicate 32 6))
      (htlcFor 1 paymentHash 49728000).htlc with
  | ok accepted => exact ⟨accepted, rfl⟩
  | error e => rw [hresult] at hcheck; cases hcheck

end Sample

end SubswapProvider
