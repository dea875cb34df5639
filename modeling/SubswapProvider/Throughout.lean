import SubswapProvider.CallbackPass

/-!
# The tables, move by move

What a move does to the hold invoices, to the swaps, to the log and to the store, each said once. An
invariant that speaks of every hold invoice (`HoldsThroughout`) or of every swap (`SwapsThroughout`),
wherever there is a copy of it, is then checked on the few changes one invoice or one swap can see.
The copies are the object in the process, the records in the datastore and in the document the next
write would store, and the records at every point the process could end at.
-/

namespace SubswapProvider

open Deployment Effect

theorem World.Stores.image {w : World} {d : Doc} (h : w.Stores d) : w.Image d := by
  rcases h with h | h
  · exact .inl h
  · exact .inr (.inl h)

/-- An event a move can say: it neither makes a funding transaction nor sends one. -/
def Event.OfMove : Event → Prop
  | .createFundingTx _ _ _ | .sendpsbt _ _ _ => False
  | _ => True

theorem Event.Plain.ofMove {e : Event} (h : e.Plain) : e.OfMove := by
  cases e with
  | createFundingTx => exact h
  | sendpsbt => exact h
  | _ => trivial

/-! ## The log and the points of the process -/

/-- Only the process changed: the datastore is the same, and nothing was said. -/
structure Recorded (w w' : World) : Prop where
  trace : w'.trace = w.trace
  views : w'.views = w.views
  disk : w'.db.disk = w.db.disk
  blank : w'.db.blank = w.db.blank
  headless : w'.db.headless = w.db.headless

namespace Recorded

variable (w : World)

theorem refl : Recorded w w := ⟨rfl, rfl, rfl, rfl, rfl⟩

variable {w} in
theorem trans {w' w'' : World} (h : Recorded w w') (h' : Recorded w' w'') : Recorded w w'' :=
  ⟨h'.trace.trans h.trace, h'.views.trans h.views, h'.disk.trans h.disk, h'.blank.trans h.blank,
    h'.headless.trans h.headless⟩

theorem setPreimage (k : Hex) (v : Bytes) : Recorded w (w.setPreimage k v) := by
  unfold World.setPreimage
  split
  · exact refl w
  · exact ⟨rfl, rfl, rfl, rfl, rfl⟩

theorem popPreimage (k : Hex) : Recorded w (w.popPreimage k) := by
  unfold World.popPreimage
  split
  · exact ⟨rfl, rfl, rfl, rfl, rfl⟩
  · exact refl w

theorem setInvoice (k : Hex) (v : Invoice) : Recorded w (w.setInvoice k v) := by
  unfold World.setInvoice
  split
  · exact refl w
  · exact ⟨rfl, rfl, rfl, rfl, rfl⟩

theorem popInvoice (k : Hex) : Recorded w (w.popInvoice k) := by
  unfold World.popInvoice
  split
  · exact ⟨rfl, rfl, rfl, rfl, rfl⟩
  · exact refl w

theorem setHoldInvoice (invoice : HoldInvoice) : Recorded w (w.setHoldInvoice invoice) := by
  dsimp only [World.setHoldInvoice]
  split
  · exact refl w
  · exact ⟨rfl, rfl, rfl, rfl, rfl⟩

theorem popHoldInvoice (k : Hex) : Recorded w (w.popHoldInvoice k) := by
  unfold World.popHoldInvoice
  split
  · exact ⟨rfl, rfl, rfl, rfl, rfl⟩
  · exact refl w

theorem replaceHold (k : Hex) (invoice : HoldInvoice) : Recorded w (w.replaceHold k invoice) :=
  (popHoldInvoice w k).trans (setHoldInvoice _ invoice)

theorem popSwap (k : Hex) : Recorded w (w.popSwap k) := by
  unfold World.popSwap
  split
  · exact ⟨rfl, rfl, rfl, rfl, rfl⟩
  · exact refl w

theorem assign (ref : SwapRef) (f : SwapData → SwapData) : Recorded w (w.assign ref f) := by
  dsimp only [World.assign]
  split
  · exact ⟨rfl, rfl, rfl, rfl, rfl⟩
  · exact ⟨rfl, rfl, rfl, rfl, rfl⟩

end Recorded

/-- What a write or an event adds to a change of the process. -/
inductive Told (w : World) : World → Prop
  | recorded {w' : World} (h : Recorded w w') : Told w w'
  | consolidated : Told w w.consolidate
  | appended : Told w w.append
  | said {w' : World} (h : Recorded w w') (e : Event) (he : e.OfMove) : Told w (w'.say e)

section

variable [Deployment] {a : Action} {w₀ w w' : World}

omit [Deployment] in
theorem told_answered {u : World} (h : Recorded w u) (request : Request) (res : HookResult) :
    Told w (u.answered request res) := by
  unfold World.answered
  split
  · exact .said h (.refused request res) trivial
  · exact .said h (.answer request res) trivial

theorem Move.told (h : Move a w₀ w w') : Told w w' := by
  cases h with
  | consolidate => exact .consolidated
  | append => exact .appended
  | setPreimage k v => exact .recorded (.setPreimage w k v)
  | popPreimage k _ => exact .recorded (.popPreimage w k)
  | setInvoice k v => exact .recorded (.setInvoice w k v)
  | popInvoice k => exact .recorded (.popInvoice w k)
  | createHold invoice => exact .recorded (.setHoldInvoice w invoice)
  | updateHold k invoice => exact .recorded (.replaceHold w k invoice)
  | bundle k invoice p => exact .recorded (.replaceHold w k _)
  | popHold k => exact .recorded (.popHoldInvoice w k)
  | resolveHtlc k invoice htlc request st res =>
    have hmut : Recorded w (w.mutHoldInvoice k (·.setHtlcState htlc.key st) fun _ => rfl) :=
      ⟨rfl, rfl, rfl, rfl, rfl⟩
    exact told_answered hmut request res
  | answerHook request res => exact told_answered (.refl w) request res
  | say e he => exact .said (.refl w) e he.ofMove
  | payInvoice key => exact .said (.refl w) (.payInvoice key (w.swap? key) (w.storedSwap? key)) trivial
  | popSwap k => exact .recorded (.popSwap w k)
  | assign ref f => exact .recorded (.assign w ref f)
  | _ => exact .recorded ⟨rfl, rfl, rfl, rfl, rfl⟩

omit [Deployment] in
theorem Told.log (h : Told w w') :
    w'.trace = w.trace ∨ ∃ e : Event, e.OfMove ∧ w'.trace = e :: w.trace := by
  cases h with
  | recorded h => exact .inl h.trace
  | consolidated => exact .inl rfl
  | appended => exact .inl rfl
  | said h e he => exact .inr ⟨e, he, by rw [World.say_trace, h.trace]⟩

omit [Deployment] in
/-- A new point of the process is its present one. -/
theorem Told.newView (h : Told w w') {v : View} (hv : v ∈ w'.views) :
    v ∈ w.views ∨ (v.db.disk = w'.db.disk ∧ v.said = w'.trace) := by
  cases h with
  | recorded h => exact .inl (h.views ▸ hv)
  | consolidated =>
    rcases List.mem_cons.mp hv with rfl | hv
    · exact .inr ⟨rfl, rfl⟩
    · exact .inl hv
  | appended =>
    rcases List.mem_cons.mp hv with rfl | hv
    · exact .inr ⟨rfl, rfl⟩
    · exact .inl hv
  | said h e =>
    rcases List.mem_cons.mp hv with rfl | hv
    · exact .inr ⟨rfl, rfl⟩
    · exact .inl (h.views ▸ hv)

/-! ## The store -/

omit [Deployment] in
theorem World.Stores.of_patch {patch : Doc → Option Doc} {d : Doc}
    (hdb : w'.db = w.db.addPatch patch) (h : w'.Stores d) :
    w.Stores d ∨ ∃ d₀, w.Stores d₀ ∧ patch d₀ = some d := by
  rcases h with h | h
  · rw [hdb] at h
    exact .inl (.inl h)
  · rw [hdb] at h
    obtain ⟨d₀, hd₀, hpatch⟩ := Option.bind_eq_some_iff.mp h
    exact .inr ⟨d₀, .inr hd₀, hpatch⟩

/-! ## The hold invoices -/

/-- What a move can change on the hold invoice stored under `k`. -/
inductive Alters (a : Action) (w : World) (k : Hex) (inv : HoldInvoice) : HoldInvoice → Prop
  | bundle (p : Bytes) (hnone : inv.associatedInvoice = none)
      (hpair : a.pair? = some (inv.paymentHash, p)) :
      Alters a w k inv { inv with associatedInvoice := some p }
  | replay (request : Request) (existing : Htlc) (ha : a.hookRequest? = some request)
      (hk : k = hex request.htlc.paymentHash)
      (hfind : inv.findHtlc request.htlc.key = some existing) :
      Alters a w k inv (inv.setHtlcCallback existing.key request)
  | add (request : Request) (now : Nat) (ha : a.hookRequest? = some request)
      (hk : k = hex request.htlc.paymentHash) (hfind : inv.findHtlc request.htlc.key = none) :
      Alters a w k inv (inv.addHtlc (Htlc.fromClnDict request.htlc request now))
  | resolve (htlc : Htlc) (request : Request) (st : HtlcState) (res : HookResult)
      (hmem : htlc ∈ inv.incomingHtlcs) (hstate : htlc.state = .accepted)
      (hrequest : htlc.requestCallback = some request)
      (hres : MayResolve a w k inv request st res) :
      Alters a w k inv (inv.setHtlcState htlc.key st)
  | fund (request : Request) (ha : a.hookRequest? = some request)
      (hfull : inv.isFullyFunded = true) (hstatus : inv.fundingStatus = .unfunded) :
      Alters a w k inv (inv.setFundingStatus .funded)
  | fail (env : Env) (ha : a = .expiry env)
      (hstatus : inv.fundingStatus ≠ .funded ∧ inv.fundingStatus ≠ .settled) :
      Alters a w k inv (inv.setFundingStatus .failed)
  | settle (h : MaySettle a w k) (hfull : inv.isFullyFunded = true)
      (hnone : ∀ h ∈ inv.incomingHtlcs, h.state ≠ .accepted) :
      Alters a w k inv (inv.setFundingStatus .settled)
  | reorder (order : List Htlc) (ha : a = .rehash k order) : Alters a w k inv (inv.reorderHtlcs order)

/-- Where a hold invoice after a move comes from. -/
inductive HoldOrigin (a : Action) (w₀ w : World) (k : Hex) (inv' : HoldInvoice) : Prop
  | same (h : w.holdInvoices.get? k = some inv')
  | altered (inv : HoldInvoice) (h : w.holdInvoices.get? k = some inv) (halters : Alters a w k inv inv')
  | fresh (h : FreshInvoice a inv')
      (hfirst : w = w₀ ∨ ∃ main, a.pair? = some (main, inv'.paymentHash))

/-- Changing one invoice object. -/
theorem holdOrigin_mut {k k' : Hex} {inv inv' : HoldInvoice} {f : HoldInvoice → HoldInvoice}
    {hf : ∀ inv, (f inv).paymentHash = inv.paymentHash} {u : World}
    (hu : u.holdInvoices = (w.mutHoldInvoice k f hf).holdInvoices)
    (hinv : w.holdInvoices.get? k = some inv) (halters : Alters a w k inv (f inv))
    (h : u.holdInvoices.get? k' = some inv') : HoldOrigin a w₀ w k' inv' := by
  rw [hu] at h
  have hget := (World.get?_mutHoldInvoice k').symm.trans h
  by_cases hk : k' = k
  · subst hk
    rw [if_pos rfl, hinv] at hget
    cases hget
    exact .altered inv hinv halters
  · rw [if_neg hk] at hget
    exact .same hget

/-- Storing another invoice in the place of one. -/
theorem holdOrigin_replace {k k' : Hex} {inv inv' new : HoldInvoice}
    (h : (w.replaceHold k new).holdInvoices.get? k' = some inv')
    (hinv : w.holdInvoices.get? k = some inv) (hhash : new.paymentHash = inv.paymentHash)
    (hnew : new = inv ∨ Alters a w k inv new) : HoldOrigin a w₀ w k' inv' := by
  have hk : hex new.paymentHash = k := by rw [hhash]; exact HoldInvoices.hex_paymentHash hinv
  rw [World.replaceHold_eq (by rw [hinv]; rfl) hk] at h
  have hget := (HoldInvoices.get?_replace hk k').symm.trans h
  by_cases hkey : k' = k
  · subst hkey
    rw [if_pos rfl] at hget
    cases hget
    rcases hnew with rfl | halters
    · exact .same hinv
    · exact .altered inv hinv halters
  · rw [if_neg hkey] at hget
    exact .same hget

theorem Move.holdOrigin (h : Move a w₀ w w') {k : Hex} {inv' : HoldInvoice}
    (hinv' : w'.holdInvoices.get? k = some inv') : HoldOrigin a w₀ w k inv' := by
  cases h with
  | setPreimage k' v =>
    unfold World.setPreimage at hinv'
    split at hinv' <;> exact .same hinv'
  | popPreimage k' _ =>
    unfold World.popPreimage at hinv'
    split at hinv' <;> exact .same hinv'
  | setInvoice k' v =>
    unfold World.setInvoice at hinv'
    split at hinv' <;> exact .same hinv'
  | popInvoice k' =>
    unfold World.popInvoice at hinv'
    split at hinv' <;> exact .same hinv'
  | createHold invoice hfresh hfirst =>
    dsimp only [World.setHoldInvoice] at hinv'
    split at hinv'
    · exact .same hinv'
    · have hget := (HoldInvoices.get?_set _ _ _).symm.trans hinv'
      split at hget
      · cases hget
        exact .fresh hfresh hfirst
      · exact .same hget
  | updateHold k' invoice hinvoice => exact holdOrigin_replace hinv' hinvoice rfl (.inl rfl)
  | bundle k' invoice p hinvoice hnone hpair =>
    exact holdOrigin_replace hinv' hinvoice rfl (.inr (.bundle p hnone hpair))
  | popHold k' =>
    unfold World.popHoldInvoice at hinv'
    split at hinv'
    · have hget := (HoldInvoices.get?_pop _ _ _).symm.trans hinv'
      split at hget
      · cases hget
      · exact .same hget
    · exact .same hinv'
  | replayHtlc invoice request existing ha hinvoice hfind =>
    exact holdOrigin_mut rfl hinvoice (.replay request existing ha rfl hfind) hinv'
  | addHtlc invoice request now ha hinvoice hfind =>
    exact holdOrigin_mut rfl hinvoice (.add request now ha rfl hfind) hinv'
  | resolveHtlc k' invoice htlc request st res hinvoice hmem hstate hrequest hres =>
    exact holdOrigin_mut (World.answered_holdInvoices _ _ _) hinvoice
      (.resolve htlc request st res hmem hstate hrequest hres) hinv'
  | fund k' invoice request ha hk hinvoice hfull hstatus =>
    exact holdOrigin_mut rfl hinvoice (.fund request ha hfull hstatus) hinv'
  | failInvoice k' invoice env ha hinvoice hstatus =>
    exact holdOrigin_mut rfl hinvoice (.fail env ha hstatus) hinv'
  | settleInvoice k' invoice hmay hinvoice hfull hnone =>
    exact holdOrigin_mut rfl hinvoice (.settle hmay hfull hnone) hinv'
  | reorderHtlcs k' order ha =>
    have hget := (World.get?_mutHoldInvoice k).symm.trans hinv'
    split at hget
    · next hk =>
      subst hk
      obtain ⟨inv, hinv, rfl⟩ := Option.map_eq_some_iff.mp hget
      exact .altered inv hinv (.reorder order ha)
    · exact .same hget
  | answerHook request res =>
    rw [World.answered_holdInvoices] at hinv'
    exact .same hinv'
  | popSwap k' =>
    unfold World.popSwap at hinv'
    split at hinv' <;> exact .same hinv'
  | assign ref f =>
    rw [World.assign_holdInvoices] at hinv'
    exact .same hinv'
  | _ => exact .same hinv'

/-- What becomes of a hold invoice in a move. -/
inductive HoldFate (a : Action) (w w' : World) (k : Hex) (inv : HoldInvoice) : Prop
  | same (h : w'.holdInvoices.get? k = some inv)
  | altered (inv' : HoldInvoice) (h : w'.holdInvoices.get? k = some inv')
      (halters : Alters a w k inv inv')
  | replaced (inv' : HoldInvoice) (h : w'.holdInvoices.get? k = some inv')
      (hfresh : FreshInvoice a inv')
  | popped (h : MayPop a w k)

theorem holdFate_mut {k k' : Hex} {inv invoice : HoldInvoice} {f : HoldInvoice → HoldInvoice}
    {hf : ∀ inv, (f inv).paymentHash = inv.paymentHash} {u : World}
    (hu : u.holdInvoices = (w.mutHoldInvoice k f hf).holdInvoices)
    (hinvoice : w.holdInvoices.get? k = some invoice) (halters : Alters a w k invoice (f invoice))
    (h : w.holdInvoices.get? k' = some inv) : HoldFate a w u k' inv := by
  have hget := (congrArg (fun t => t.get? k') hu).trans (World.get?_mutHoldInvoice k')
  by_cases hk : k' = k
  · subst hk
    rw [hinvoice] at h
    cases h
    rw [if_pos rfl, hinvoice] at hget
    exact .altered _ hget halters
  · rw [if_neg hk, h] at hget
    exact .same hget

theorem holdFate_replace {k k' : Hex} {inv invoice new : HoldInvoice}
    (hinvoice : w.holdInvoices.get? k = some invoice) (hhash : new.paymentHash = invoice.paymentHash)
    (hnew : new = invoice ∨ Alters a w k invoice new)
    (h : w.holdInvoices.get? k' = some inv) : HoldFate a w (w.replaceHold k new) k' inv := by
  have hk : hex new.paymentHash = k := by rw [hhash]; exact HoldInvoices.hex_paymentHash hinvoice
  have hget : (w.replaceHold k new).holdInvoices.get? k' = if k' = k then some new
      else w.holdInvoices.get? k' := by
    rw [World.replaceHold_eq (by rw [hinvoice]; rfl) hk]
    exact HoldInvoices.get?_replace hk k'
  by_cases hkey : k' = k
  · subst hkey
    rw [hinvoice] at h
    cases h
    rw [if_pos rfl] at hget
    rcases hnew with rfl | halters
    · exact .same hget
    · exact .altered new hget halters
  · rw [if_neg hkey, h] at hget
    exact .same hget

theorem Move.holdFate (h : Move a w₀ w w') {k : Hex} {inv : HoldInvoice}
    (hinv : w.holdInvoices.get? k = some inv) : HoldFate a w w' k inv := by
  cases h with
  | setPreimage k' v => exact .same ((Quiet.setPreimage k' v w).holdInvoices ▸ hinv)
  | popPreimage k' _ => exact .same ((Quiet.popPreimage k' w).holdInvoices ▸ hinv)
  | setInvoice k' v => exact .same ((Quiet.setInvoice k' v w).holdInvoices ▸ hinv)
  | popInvoice k' => exact .same ((Quiet.popInvoice k' w).holdInvoices ▸ hinv)
  | createHold invoice hfresh =>
    dsimp only [World.setHoldInvoice]
    split
    · exact .same hinv
    · by_cases hk : k = hex invoice.paymentHash
      · exact .replaced invoice ((HoldInvoices.get?_set _ _ _).trans (if_pos hk)) hfresh
      · exact .same ((HoldInvoices.get?_set _ _ _).trans ((if_neg hk).trans hinv))
  | updateHold k' invoice hinvoice => exact holdFate_replace hinvoice rfl (.inl rfl) hinv
  | bundle k' invoice p hinvoice hnone hpair =>
    have halters : Alters a w k' invoice { invoice with associatedInvoice := some p } :=
      .bundle p hnone hpair
    exact holdFate_replace hinvoice rfl (.inr halters) hinv
  | popHold k' hpop =>
    by_cases hk : k = k'
    · exact .popped (hk ▸ hpop)
    · refine .same ?_
      unfold World.popHoldInvoice
      split
      · exact (HoldInvoices.get?_pop _ _ _).trans ((if_neg hk).trans hinv)
      · exact hinv
  | replayHtlc invoice request existing ha hinvoice hfind =>
    exact holdFate_mut rfl hinvoice (.replay request existing ha rfl hfind) hinv
  | addHtlc invoice request now ha hinvoice hfind =>
    exact holdFate_mut rfl hinvoice (.add request now ha rfl hfind) hinv
  | resolveHtlc k' invoice htlc request st res hinvoice hmem hstate hrequest hres =>
    exact holdFate_mut (World.answered_holdInvoices _ _ _) hinvoice
      (.resolve htlc request st res hmem hstate hrequest hres) hinv
  | fund k' invoice request ha hk hinvoice hfull hstatus =>
    exact holdFate_mut rfl hinvoice (.fund request ha hfull hstatus) hinv
  | failInvoice k' invoice env ha hinvoice hstatus =>
    exact holdFate_mut rfl hinvoice (.fail env ha hstatus) hinv
  | settleInvoice k' invoice hmay hinvoice hfull hnone =>
    exact holdFate_mut rfl hinvoice (.settle hmay hfull hnone) hinv
  | reorderHtlcs k' order ha =>
    by_cases hk : k = k'
    · subst hk
      refine .altered (inv.reorderHtlcs order) ?_ (.reorder order ha)
      apply (World.get?_mutHoldInvoice k).trans
      rw [if_pos rfl, hinv]
      rfl
    · refine .same ?_
      apply (World.get?_mutHoldInvoice k).trans
      rw [if_neg hk]
      exact hinv
  | answerHook request res =>
    rw [← World.answered_holdInvoices request res w] at hinv
    exact .same hinv
  | popSwap k' => exact .same ((Quiet.popSwap k' w).holdInvoices ▸ hinv)
  | assign ref f => exact .same ((World.assign_holdInvoices ref f w).symm ▸ hinv)
  | _ => exact .same hinv

/-- Where a hold invoice of a stored document comes from: it was stored already, or is as in the
process now. -/
def StoredOrigin (w w' : World) (k : Hex) (inv : HoldInvoice) : Prop :=
  (∃ d, w.Stores d ∧ d.holdInvoices.get? k = some inv) ∨
  ∃ live, w'.holdInvoices.get? k = some live ∧ inv = live.stored

omit [Deployment] in
/-- A patch that leaves the hold invoices of the document alone. -/
theorem storedOrigin_patch {patch : Doc → Option Doc} (hpatch : KeepsHolds patch)
    (hdb : w'.db = w.db.addPatch patch) {d : Doc} (hd : w'.Stores d) {k : Hex} {inv : HoldInvoice}
    (hinv : d.holdInvoices.get? k = some inv) : StoredOrigin w w' k inv := by
  rcases hd.of_patch hdb with hd | ⟨d₀, hd₀, hd⟩
  · exact .inl ⟨d, hd, hinv⟩
  · rw [hpatch d₀ d hd] at hinv
    exact .inl ⟨d₀, hd₀, hinv⟩

omit [Deployment] in
theorem storedOrigin_setHold {invoice : HoldInvoice} {d : Doc}
    (hd : (w.setHoldInvoice invoice).Stores d) {k : Hex} {inv : HoldInvoice}
    (hinv : d.holdInvoices.get? k = some inv) :
    StoredOrigin w (w.setHoldInvoice invoice) k inv := by
  dsimp only [World.setHoldInvoice] at hd ⊢
  split at hd
  · next hsame =>
    rw [if_pos hsame]
    exact .inl ⟨d, hd, hinv⟩
  · next hnew =>
    rw [if_neg hnew]
    rcases World.Stores.of_patch rfl hd with hd | ⟨d₀, hd₀, hset⟩
    · exact .inl ⟨d, hd, hinv⟩
    · split at hset
      · cases hset
      · cases hset
        have hget := (HoldInvoices.get?_set _ _ _).symm.trans hinv
        split at hget
        · next hk =>
          cases hget
          refine .inr ⟨invoice, ?_, rfl⟩
          apply (HoldInvoices.get?_set _ _ _).trans
          exact if_pos hk
        · exact .inl ⟨d₀, hd₀, hget⟩

omit [Deployment] in
theorem stores_popHold {k : Hex} {d : Doc} (hd : (w.popHoldInvoice k).Stores d) {k' : Hex}
    {inv : HoldInvoice} (hinv : d.holdInvoices.get? k' = some inv) :
    ∃ d, w.Stores d ∧ d.holdInvoices.get? k' = some inv := by
  unfold World.popHoldInvoice at hd
  split at hd
  · rcases World.Stores.of_patch rfl hd with hd | ⟨d₀, hd₀, hpop⟩
    · exact ⟨d, hd, hinv⟩
    · split at hpop
      · cases hpop
        have hget := (HoldInvoices.get?_pop _ _ _).symm.trans hinv
        split at hget
        · cases hget
        · exact ⟨d₀, hd₀, hget⟩
      · cases hpop
  · exact ⟨d, hd, hinv⟩

omit [Deployment] in
theorem storedOrigin_replace {k : Hex} {invoice : HoldInvoice} {d : Doc}
    (hd : (w.replaceHold k invoice).Stores d) {k' : Hex} {inv : HoldInvoice}
    (hinv : d.holdInvoices.get? k' = some inv) :
    StoredOrigin w (w.replaceHold k invoice) k' inv := by
  have hset : StoredOrigin (w.popHoldInvoice k) (w.replaceHold k invoice) k' inv :=
    storedOrigin_setHold hd hinv
  rcases hset with ⟨d₀, hd₀, hget⟩ | hlive
  · exact .inl (stores_popHold hd₀ hget)
  · exact .inr hlive

theorem Move.storedOrigin (h : Move a w₀ w w') {d : Doc} (hd : w'.Stores d) {k : Hex}
    {inv : HoldInvoice} (hinv : d.holdInvoices.get? k = some inv) : StoredOrigin w w' k inv := by
  cases h with
  | consolidate =>
    have hdoc : d = w.doc := by
      rcases hd with hd | hd <;> cases hd <;> rfl
    subst hdoc
    have hget := (HoldInvoices.get?_stored w.holdInvoices k).symm.trans hinv
    obtain ⟨live, hlive, rfl⟩ := Option.map_eq_some_iff.mp hget
    exact .inr ⟨live, hlive, rfl⟩
  | append =>
    have hqueued : w.db.queued = some d := by rcases hd with hd | hd <;> exact hd
    exact .inl ⟨d, .inr hqueued, hinv⟩
  | setPreimage k' v =>
    unfold World.setPreimage at hd ⊢
    split at hd
    · next hsame => rw [if_pos hsame]; exact .inl ⟨d, hd, hinv⟩
    · next hnew =>
      rw [if_neg hnew]
      exact storedOrigin_patch (.none_if
        (c := fun d => w.preimages.contains k' && !d.preimages.contains k')
        (f := fun d => { d with preimages := d.preimages.set k' v }) fun _ => rfl) rfl hd hinv
  | popPreimage k' _ =>
    unfold World.popPreimage at hd ⊢
    split at hd
    · next hsome =>
      rw [if_pos hsome]
      exact storedOrigin_patch (.some_if (c := fun d => d.preimages.contains k')
        (f := fun d => { d with preimages := d.preimages.pop k' }) fun _ => rfl) rfl hd hinv
    · next hnone => rw [if_neg hnone]; exact .inl ⟨d, hd, hinv⟩
  | setInvoice k' v =>
    unfold World.setInvoice at hd ⊢
    split at hd
    · next hsame => rw [if_pos hsame]; exact .inl ⟨d, hd, hinv⟩
    · next hnew =>
      rw [if_neg hnew]
      exact storedOrigin_patch (.none_if
        (c := fun d => w.invoices.contains k' && !d.invoices.contains k')
        (f := fun d => { d with invoices := d.invoices.set k' v }) fun _ => rfl) rfl hd hinv
  | popInvoice k' =>
    unfold World.popInvoice at hd ⊢
    split at hd
    · next hsome =>
      rw [if_pos hsome]
      exact storedOrigin_patch (.some_if (c := fun d => d.invoices.contains k')
        (f := fun d => { d with invoices := d.invoices.pop k' }) fun _ => rfl) rfl hd hinv
    · next hnone => rw [if_neg hnone]; exact .inl ⟨d, hd, hinv⟩
  | createHold invoice => exact storedOrigin_setHold hd hinv
  | updateHold k' invoice => exact storedOrigin_replace hd hinv
  | bundle k' invoice p => exact storedOrigin_replace hd hinv
  | popHold k' => exact .inl (stores_popHold hd hinv)
  | resolveHtlc k' invoice htlc request st res =>
    obtain ⟨e, heq⟩ := World.answered_eq request res
      (w.mutHoldInvoice k' (·.setHtlcState htlc.key st) fun _ => rfl)
    rw [heq] at hd
    exact .inl ⟨d, hd, hinv⟩
  | answerHook request res =>
    obtain ⟨e, heq⟩ := World.answered_eq request res w
    rw [heq] at hd
    exact .inl ⟨d, hd, hinv⟩
  | setSwap ref =>
    have hkeeps : KeepsHolds fun d => some { d with
        swaps := d.swaps.set (hex (w.heap ref).paymentHash) { w.heap ref with db := true } } := by
      intro d d' h
      cases h
      rfl
    exact storedOrigin_patch hkeeps rfl hd hinv
  | popSwap k' =>
    unfold World.popSwap at hd ⊢
    split at hd
    · next hsome =>
      rw [if_pos hsome]
      exact storedOrigin_patch (.some_if (c := fun d => d.swaps.contains k')
        (f := fun d => { d with swaps := d.swaps.pop k' }) fun _ => rfl) rfl hd hinv
    · next hnone => rw [if_neg hnone]; exact .inl ⟨d, hd, hinv⟩
  | assign ref f =>
    dsimp only [World.assign] at hd ⊢
    split at hd
    · next hdb =>
      rw [if_pos hdb]
      exact storedOrigin_patch (.some_if
        (c := fun d => d.swaps.contains (hex (w.heap ref).paymentHash))
        (f := fun d => { d with swaps := d.swaps.modify (hex (w.heap ref).paymentHash) f })
        fun _ => rfl) rfl hd hinv
    · exact .inl ⟨d, hd, hinv⟩
  | _ => exact .inl ⟨d, hd, hinv⟩

/-- `P` holds of every hold invoice of the process and of the store. -/
structure HoldsNow (P : HoldInvoice → Prop) (w : World) : Prop where
  live : ∀ k inv, w.holdInvoices.get? k = some inv → P inv
  stored : ∀ d, w.Stores d → ∀ k inv, d.holdInvoices.get? k = some inv → P inv

theorem HoldsNow.move {P : HoldInvoice → Prop} (hmove : Move a w₀ w w') (h : HoldsNow P w)
    (hstored : ∀ inv, P inv → P inv.stored)
    (hfresh : ∀ inv, FreshInvoice a inv →
      (w = w₀ ∨ ∃ main, a.pair? = some (main, inv.paymentHash)) → P inv)
    (halters : ∀ k inv inv', w.holdInvoices.get? k = some inv → Alters a w k inv inv' →
      P inv → P inv') : HoldsNow P w' := by
  have hlive : ∀ k inv, w'.holdInvoices.get? k = some inv → P inv := by
    intro k inv hinv
    cases hmove.holdOrigin hinv with
    | same hinv => exact h.live k inv hinv
    | altered inv₀ hinv₀ halter => exact halters k inv₀ inv hinv₀ halter (h.live k inv₀ hinv₀)
    | fresh hnew hfirst => exact hfresh inv hnew hfirst
  refine ⟨hlive, fun d hd k inv hinv => ?_⟩
  rcases hmove.storedOrigin hd hinv with ⟨d₀, hd₀, hinv₀⟩ | ⟨live, hlive', rfl⟩
  · exact h.stored d₀ hd₀ k inv hinv₀
  · exact hstored live (hlive k live hlive')

omit [Deployment] in
theorem HoldsNow.mono {P Q : HoldInvoice → Prop} (h : HoldsNow P w) (hPQ : ∀ inv, P inv → Q inv) :
    HoldsNow Q w :=
  ⟨fun k inv hinv => hPQ inv (h.live k inv hinv), fun d hd k inv hinv => hPQ inv (h.stored d hd k inv hinv)⟩

omit [Deployment] in
/-- An assignment to a swap leaves the stored hold invoices alone. -/
theorem World.Stores.of_assign {ref : SwapRef} {f : SwapData → SwapData} {d : Doc}
    (hd : (w.assign ref f).Stores d) : ∃ d₀, w.Stores d₀ ∧ d₀.holdInvoices = d.holdInvoices := by
  dsimp only [World.assign] at hd
  split at hd
  · rcases World.Stores.of_patch rfl hd with hd | ⟨d₀, hd₀, hmodify⟩
    · exact ⟨d, hd, rfl⟩
    · split at hmodify
      · cases hmodify
        exact ⟨d₀, hd₀, rfl⟩
      · cases hmodify
  · exact ⟨d, hd, rfl⟩

omit [Deployment] in
/-- After a restart everything stored is one document. -/
theorem World.Stores.of_restart {env : Env} {view : View} {d₀ d : Doc} (hload : view.db.load = some d₀)
    (hd : (w.restart env view).Stores d) : view.db.disk = some d := by
  unfold World.restart at hd
  rw [hload] at hd
  rcases hd with hd | hd <;> exact hd

omit [Deployment] in
theorem HoldsNow.assign {P : HoldInvoice → Prop} (ref : SwapRef) (f : SwapData → SwapData)
    (h : HoldsNow P w) : HoldsNow P (w.assign ref f) := by
  refine ⟨fun k inv hinv => ?_, fun d hd k inv hinv => ?_⟩
  · rw [World.assign_holdInvoices] at hinv
    exact h.live k inv hinv
  · obtain ⟨d₀, hd₀, hholds⟩ := hd.of_assign
    exact h.stored d₀ hd₀ k inv (hholds ▸ hinv)

omit [Deployment] in
/-- Storing a swap leaves the hold invoices alone. -/
theorem HoldsNow.setSwap {P : HoldInvoice → Prop} (k : Hex) (ref : SwapRef) (h : HoldsNow P w) :
    HoldsNow P (w.setSwap k ref) := by
  refine ⟨h.live, fun d hd k' inv hinv => ?_⟩
  rcases World.Stores.of_patch rfl hd with hd | ⟨d₀, hd₀, hset⟩
  · exact h.stored d hd k' inv hinv
  · cases hset
    exact h.stored d₀ hd₀ k' inv hinv

/-- `P` holds of every hold invoice, wherever there is a copy of it, and of what has been said by the
time of the copy. -/
structure HoldsThroughout (P : List Event → HoldInvoice → Prop) (w : World) : Prop
    extends HoldsNow (P w.trace) w where
  views : ∀ v ∈ w.views, ∀ d, v.db.disk = some d →
    ∀ k inv, d.holdInvoices.get? k = some inv → P v.said inv

namespace HoldsThroughout

variable {P : List Event → HoldInvoice → Prop}

theorem move (hmove : Move a w₀ w w') (h : HoldsThroughout P w)
    (hstored : ∀ t inv, P t inv → P t inv.stored)
    (hsaid : ∀ inv, P w.trace inv → P w'.trace inv)
    (hfresh : ∀ inv, FreshInvoice a inv →
      (w = w₀ ∨ ∃ main, a.pair? = some (main, inv.paymentHash)) → P w.trace inv)
    (halters : ∀ k inv inv', w.holdInvoices.get? k = some inv → Alters a w k inv inv' →
      P w.trace inv → P w.trace inv') : HoldsThroughout P w' := by
  have hnow : HoldsNow (P w'.trace) w' :=
    (h.toHoldsNow.move hmove (hstored _) hfresh halters).mono hsaid
  refine ⟨hnow, fun v hv d hd k inv hinv => ?_⟩
  rcases hmove.told.newView hv with hv | ⟨hdisk, hsaid'⟩
  · exact h.views v hv d hd k inv hinv
  · rw [hsaid']
    exact hnow.stored d (.inl (hdisk ▸ hd)) k inv hinv

omit [Deployment] in
/-- A restart finds what was stored at one of the points. -/
theorem restart (env : Env) {view : View} (hview : view = ⟨w.db, w.trace⟩ ∨ view ∈ w.views)
    (h : HoldsThroughout P w) : HoldsThroughout P (w.restart env view) := by
  unfold World.restart
  split
  · exact h
  · next d hd =>
    have hdisk : ∀ d, view.db.disk = some d → ∀ k inv, d.holdInvoices.get? k = some inv →
        P view.said inv := by
      intro d hd
      rcases hview with rfl | hview
      · exact h.stored d (.inl hd)
      · exact h.views view hview d hd
    have hload : view.db.disk = some d := by
      unfold Db.load at hd
      split at hd
      · cases hd
      · exact hd
    refine ⟨⟨hdisk d hload, fun d' hd' => hdisk d' ?_⟩, fun v hv d' hd' => ?_⟩
    · rcases hd' with hd' | hd' <;> exact hd'
    · cases List.mem_singleton.mp hv
      exact hdisk d' hd'

omit [Deployment] in
/-- Nothing but the log changes. -/
theorem say (e : Event) (h : HoldsThroughout P w) (hsaid : HoldsNow (P (e :: w.trace)) w) :
    HoldsThroughout P (w.say e) := by
  refine ⟨⟨hsaid.live, hsaid.stored⟩, fun v hv d hd k inv hinv => ?_⟩
  rcases List.mem_cons.mp hv with rfl | hv
  · exact hsaid.stored d (.inl hd) k inv hinv
  · exact h.views v hv d hd k inv hinv

omit [Deployment] in
theorem assign (ref : SwapRef) (f : SwapData → SwapData) (h : HoldsThroughout P w) :
    HoldsThroughout P (w.assign ref f) := by
  refine ⟨?_, fun v hv => ?_⟩
  · rw [World.assign_trace]
    exact h.toHoldsNow.assign ref f
  · rw [(Recorded.assign w ref f).views] at hv
    exact h.views v hv

omit [Deployment] in
theorem send (ref : SwapRef) (tx : FundingTx) (h : HoldsThroughout P w)
    (hsaid : ∀ swap stored, swap.paymentHash = (w.heap ref).paymentHash →
      HoldsNow (P (.sendpsbt swap stored tx :: w.trace)) w) : HoldsThroughout P (w.send ref tx) := by
  refine say _ (h.assign ref _) ?_
  rw [World.assign_trace]
  exact (hsaid _ _ (by rw [World.assign_heap_self])).assign ref _

omit [Deployment] in
theorem mono {Q : List Event → HoldInvoice → Prop} (h : HoldsThroughout P w)
    (hPQ : ∀ t inv, P t inv → Q t inv) : HoldsThroughout Q w where
  toHoldsNow := h.toHoldsNow.mono (hPQ _)
  views v hv d hd k inv hinv := hPQ _ _ (h.views v hv d hd k inv hinv)

omit [Deployment] in
theorem and {Q : List Event → HoldInvoice → Prop} (h : HoldsThroughout P w)
    (h' : HoldsThroughout Q w) : HoldsThroughout (fun t inv => P t inv ∧ Q t inv) w where
  live k inv hinv := ⟨h.live k inv hinv, h'.live k inv hinv⟩
  stored d hd k inv hinv := ⟨h.stored d hd k inv hinv, h'.stored d hd k inv hinv⟩
  views v hv d hd k inv hinv := ⟨h.views v hv d hd k inv hinv, h'.views v hv d hd k inv hinv⟩

omit [Deployment] in
/-- The process starts with nothing stored. -/
theorem start : HoldsThroughout P World.start := by
  have hnone : ∀ k inv, (∅ : HoldInvoices).get? k = some inv → False := by
    intro k inv hinv
    rw [HoldInvoices.get?_empty] at hinv
    cases hinv
  refine ⟨⟨fun k inv hinv => (hnone k inv hinv).elim, fun d hd k inv hinv => ?_⟩,
    fun v hv d hd k inv hinv => ?_⟩
  · rcases hd with hd | hd <;> cases hd <;> exact (hnone k inv hinv).elim
  · cases List.mem_singleton.mp hv
    cases hd
    exact (hnone k inv hinv).elim

end HoldsThroughout

/-! ## The swaps -/

omit [Deployment] in
/-- The swaps, the watched addresses and the stored records of swaps are those of before. -/
structure SwapTables (w w' : World) : Prop where
  swaps : w'.swaps = w.swaps
  heap : w'.heap = w.heap
  nextRef : w'.nextRef = w.nextRef
  lnwatcherCallbacks : w'.lnwatcherCallbacks = w.lnwatcherCallbacks
  stored : ∀ d, w'.Stores d → ∃ d₀, w.Image d₀ ∧ d₀.swaps = d.swaps

namespace SwapTables

omit [Deployment] in
theorem of_patch {patch : Doc → Option Doc} (h : SwapsSame w w')
    (hpatch : ∀ d d', patch d = some d' → d'.swaps = d.swaps)
    (hdb : w'.db = w.db.addPatch patch) : SwapTables w w' := by
  refine ⟨h.swaps, h.heap, h.nextRef, h.lnwatcherCallbacks, fun d hd => ?_⟩
  rcases hd.of_patch hdb with hd | ⟨d₀, hd₀, hd⟩
  · exact ⟨d, hd.image, rfl⟩
  · exact ⟨d₀, hd₀.image, (hpatch d₀ d hd).symm⟩

omit [Deployment] in
theorem of_db (h : SwapsSame w w') (hdb : w'.db = w.db) : SwapTables w w' := by
  refine ⟨h.swaps, h.heap, h.nextRef, h.lnwatcherCallbacks, fun d hd => ⟨d, ?_, rfl⟩⟩
  have hstores : w.Stores d := by
    unfold World.Stores
    rw [← hdb]
    exact hd
  exact hstores.image

omit [Deployment] in
theorem refl (w : World) : SwapTables w w := of_db (.refl w) rfl

omit [Deployment] in
theorem some_if {c : Doc → Bool} {f : Doc → Doc} (h : SwapsSame w w')
    (hf : ∀ d, (f d).swaps = d.swaps)
    (hdb : w'.db = w.db.addPatch fun d => if c d then some (f d) else none) : SwapTables w w' := by
  refine of_patch h (fun d d' hd => ?_) hdb
  split at hd
  · cases hd; exact hf d
  · cases hd

omit [Deployment] in
theorem none_if {c : Doc → Bool} {f : Doc → Doc} (h : SwapsSame w w')
    (hf : ∀ d, (f d).swaps = d.swaps)
    (hdb : w'.db = w.db.addPatch fun d => if c d then none else some (f d)) : SwapTables w w' := by
  refine of_patch h (fun d d' hd => ?_) hdb
  split at hd
  · cases hd
  · cases hd; exact hf d

section Tables

variable (w)

omit [Deployment] in
theorem setPreimage (k : Hex) (v : Bytes) : SwapTables w (w.setPreimage k v) := by
  unfold World.setPreimage
  split
  · exact refl w
  · exact none_if (c := fun d => w.preimages.contains k && !d.preimages.contains k)
      (f := fun d => { d with preimages := d.preimages.set k v }) ⟨rfl, rfl, rfl, rfl, rfl, rfl⟩
      (fun _ => rfl) rfl

omit [Deployment] in
theorem popPreimage (k : Hex) : SwapTables w (w.popPreimage k) := by
  unfold World.popPreimage
  split
  · exact some_if (c := fun d => d.preimages.contains k)
      (f := fun d => { d with preimages := d.preimages.pop k }) ⟨rfl, rfl, rfl, rfl, rfl, rfl⟩
      (fun _ => rfl) rfl
  · exact refl w

omit [Deployment] in
theorem setInvoice (k : Hex) (v : Invoice) : SwapTables w (w.setInvoice k v) := by
  unfold World.setInvoice
  split
  · exact refl w
  · exact none_if (c := fun d => w.invoices.contains k && !d.invoices.contains k)
      (f := fun d => { d with invoices := d.invoices.set k v }) ⟨rfl, rfl, rfl, rfl, rfl, rfl⟩
      (fun _ => rfl) rfl

omit [Deployment] in
theorem popInvoice (k : Hex) : SwapTables w (w.popInvoice k) := by
  unfold World.popInvoice
  split
  · exact some_if (c := fun d => d.invoices.contains k)
      (f := fun d => { d with invoices := d.invoices.pop k }) ⟨rfl, rfl, rfl, rfl, rfl, rfl⟩
      (fun _ => rfl) rfl
  · exact refl w

omit [Deployment] in
theorem setHoldInvoice (invoice : HoldInvoice) : SwapTables w (w.setHoldInvoice invoice) := by
  dsimp only [World.setHoldInvoice]
  split
  · exact refl w
  · exact none_if (c := fun d => (w.holdInvoices.get? (hex invoice.paymentHash)).isSome &&
        (d.holdInvoices.get? (hex invoice.paymentHash)).isNone)
      (f := fun d => { d with holdInvoices := d.holdInvoices.set invoice.stored })
      ⟨rfl, rfl, rfl, rfl, rfl, rfl⟩ (fun _ => rfl) rfl

omit [Deployment] in
theorem popHoldInvoice (k : Hex) : SwapTables w (w.popHoldInvoice k) := by
  unfold World.popHoldInvoice
  split
  · exact some_if (c := fun d => (d.holdInvoices.get? k).isSome)
      (f := fun d => { d with holdInvoices := d.holdInvoices.pop k }) ⟨rfl, rfl, rfl, rfl, rfl, rfl⟩
      (fun _ => rfl) rfl
  · exact refl w

end Tables

omit [Deployment] in
theorem trans {w'' : World} (h : SwapTables w w') (h' : SwapTables w' w'') : SwapTables w w'' := by
  refine ⟨h'.swaps.trans h.swaps, h'.heap.trans h.heap, h'.nextRef.trans h.nextRef,
    h'.lnwatcherCallbacks.trans h.lnwatcherCallbacks, fun d hd => ?_⟩
  obtain ⟨d₁, hd₁, heq⟩ := h'.stored d hd
  rcases hd₁ with hd₁ | hd₁ | rfl
  · obtain ⟨d₀, hd₀, heq'⟩ := h.stored d₁ (.inl hd₁)
    exact ⟨d₀, hd₀, heq'.trans heq⟩
  · obtain ⟨d₀, hd₀, heq'⟩ := h.stored d₁ (.inr hd₁)
    exact ⟨d₀, hd₀, heq'.trans heq⟩
  · refine ⟨w.doc, .inr (.inr rfl), ?_⟩
    show w.swaps.mapVals w.heap = d.swaps
    rw [← h.swaps, ← h.heap]
    exact heq

omit [Deployment] in
theorem answered (request : Request) (res : HookResult) (u : World) (h : SwapTables w u) :
    SwapTables w (u.answered request res) := by
  obtain ⟨e, heq⟩ := World.answered_eq request res u
  rw [heq]
  exact h.trans (of_db ⟨rfl, rfl, rfl, rfl, rfl, rfl⟩ rfl)

end SwapTables

/-- What a move does to the swaps. -/
inductive SwapChange (a : Action) (w₀ w : World) : World → Prop
  | none {w' : World} (h : SwapTables w w') : SwapChange a w₀ w w'
  | alloc (swap : SwapData) (hnew : NewSwap a swap) (hfirst : w.nextRef = w₀.nextRef) :
      SwapChange a w₀ w (w.allocSwap swap)
  | store (ref : SwapRef) (hnone : w.swaps.contains (hex (w.heap ref).paymentHash) = false)
      (htracks : (ref + 1 = w.nextRef ∧ NewSwap a (w.heap ref) ∧ ((w.heap ref).isReverse = false →
          ∀ d, w.Image d → ∀ inv, d.holdInvoices.get? (hex (w.heap ref).paymentHash) = some inv →
            inv.associatedInvoice.isSome = true)) ∨
        (w.Tracks ref ∧ ∃ env address, a = .claim env address)) :
      SwapChange a w₀ w (w.setSwap (hex (w.heap ref).paymentHash) ref)
  | pop (k : Hex) (h : MayForget w₀ w k) : SwapChange a w₀ w (w.popSwap k)
  | assign (ref : SwapRef) (f : SwapData → SwapData) (env : Env) (address : Address)
      (ha : a = .claim env address) (hf : Assignment (w.heap ref) f)
      (htracks : w.Tracks ref) : SwapChange a w₀ w (w.assign ref f)
  | watch (ref : SwapRef) (h : (∃ k, w.swaps.get? k = some ref) ∨
        (ref < w.nextRef ∧ w.swaps.contains (hex (w.heap ref).paymentHash) = true))
      (hstage : w₀.managed = true ∨ w₀.running = true) :
      SwapChange a w₀ w { w with
        lnwatcherCallbacks := w.lnwatcherCallbacks.set (w.heap ref).lockupAddress ref }
  | unwatch (address : Address) :
      SwapChange a w₀ w { w with lnwatcherCallbacks := w.lnwatcherCallbacks.pop address }

theorem Move.swapChange (h : Move a w₀ w w') : SwapChange a w₀ w w' := by
  cases h with
  | consolidate =>
    refine .none ⟨rfl, rfl, rfl, rfl, fun d hd => ⟨w.doc, .inr (.inr rfl), ?_⟩⟩
    rcases hd with hd | hd <;> cases hd <;> rfl
  | append =>
    refine .none ⟨rfl, rfl, rfl, rfl, fun d hd => ⟨d, .inr (.inl ?_), rfl⟩⟩
    rcases hd with hd | hd <;> exact hd
  | setPreimage k v => exact .none (.setPreimage w k v)
  | popPreimage k _ => exact .none (.popPreimage w k)
  | setInvoice k v => exact .none (.setInvoice w k v)
  | popInvoice k => exact .none (.popInvoice w k)
  | createHold invoice => exact .none (.setHoldInvoice w invoice)
  | updateHold k invoice =>
    exact .none ((SwapTables.popHoldInvoice w k).trans (.setHoldInvoice _ invoice))
  | bundle k invoice p => exact .none ((SwapTables.popHoldInvoice w k).trans (.setHoldInvoice _ _))
  | popHold k => exact .none (.popHoldInvoice w k)
  | resolveHtlc k invoice htlc request st res =>
    exact .none (.answered request res _ (.of_db ⟨rfl, rfl, rfl, rfl, rfl, rfl⟩ rfl))
  | answerHook request res => exact .none (.answered request res w (.refl w))
  | allocSwap swap hnew hfirst => exact .alloc swap hnew hfirst
  | setSwap ref hnone htracks => exact .store ref hnone htracks
  | popSwap k h => exact .pop k h
  | assign ref f env address ha hf htracks => exact .assign ref f env address ha hf htracks
  | watch ref h hstage => exact .watch ref h hstage
  | unwatch address => exact .unwatch address
  | _ => exact .none ⟨rfl, rfl, rfl, rfl, fun d hd => ⟨d, World.Stores.image hd, rfl⟩⟩

omit [Deployment] in
@[simp] theorem Assignment.paymentHash {now : SwapData} {f : SwapData → SwapData}
    (h : Assignment now f) (swap : SwapData) : (f swap).paymentHash = swap.paymentHash := by
  cases h <;> rfl

omit [Deployment] in
/-- A record of the swap table of a store. -/
structure RecordOk (P : SwapData → Prop) (k : Hex) (swap : SwapData) : Prop where
  key : k = hex swap.paymentHash
  holds : P swap

omit [Deployment] in
/-- `P` holds of every swap, wherever there is a copy of it, and every swap is filed under its payment
hash. -/
structure SwapsThroughout (P : SwapData → Prop) (w : World) : Prop where
  table : ∀ k ref, w.swaps.get? k = some ref →
    ref < w.nextRef ∧ k = hex (w.heap ref).paymentHash
  watched : ∀ address ref, w.lnwatcherCallbacks.get? address = some ref → ref < w.nextRef
  live : ∀ ref, ref < w.nextRef → P (w.heap ref)
  stored : ∀ d, w.Stores d → ∀ k swap, d.swaps.get? k = some swap → RecordOk P k swap
  views : ∀ v ∈ w.views, ∀ d, v.db.disk = some d →
    ∀ k swap, d.swaps.get? k = some swap → RecordOk P k swap

namespace SwapsThroughout

variable {P : SwapData → Prop}

omit [Deployment] in
theorem tracks (h : SwapsThroughout P w) {ref : SwapRef} (href : w.Tracks ref) : ref < w.nextRef := by
  rcases href with ⟨k, hk⟩ | ⟨address, haddress⟩
  · exact (h.table k ref hk).1
  · exact h.watched address ref haddress

omit [Deployment] in
/-- The records as a write would store them. -/
theorem image (h : SwapsThroughout P w) {d : Doc} (hd : w.Image d) {k : Hex} {swap : SwapData}
    (hswap : d.swaps.get? k = some swap) : RecordOk P k swap := by
  rcases hd with hd | hd | rfl
  · exact h.stored d (.inl hd) k swap hswap
  · exact h.stored d (.inr hd) k swap hswap
  · obtain ⟨ref, href, rfl⟩ := Option.map_eq_some_iff.mp
      ((Dict.get?_mapVals w.heap w.swaps k).symm.trans hswap)
    obtain ⟨hlt, hk⟩ := h.table k ref href
    exact ⟨hk, h.live ref hlt⟩

omit [Deployment] in
/-- The points of the process are its present one and those from before. -/
theorem of_views (h : SwapsThroughout P w)
    (hnew : ∀ v ∈ w'.views, v ∈ w.views ∨ v.db.disk = w'.db.disk)
    (hstored : ∀ d, w'.Stores d → ∀ k swap, d.swaps.get? k = some swap → RecordOk P k swap) :
    ∀ v ∈ w'.views, ∀ d, v.db.disk = some d →
      ∀ k swap, d.swaps.get? k = some swap → RecordOk P k swap := by
  intro v hv d hd
  rcases hnew v hv with hv | hdisk
  · exact h.views v hv d hd
  · exact hstored d (.inl (hdisk ▸ hd))

omit [Deployment] in
theorem tables (h : SwapsThroughout P w) (hs : SwapTables w w')
    (hnew : ∀ v ∈ w'.views, v ∈ w.views ∨ v.db.disk = w'.db.disk) : SwapsThroughout P w' := by
  have hstored : ∀ d, w'.Stores d → ∀ k swap, d.swaps.get? k = some swap → RecordOk P k swap := by
    intro d hd k swap hswap
    obtain ⟨d₀, hd₀, heq⟩ := hs.stored d hd
    exact h.image hd₀ (heq ▸ hswap)
  refine ⟨?_, ?_, ?_, hstored, h.of_views hnew hstored⟩
  · rw [hs.swaps, hs.heap, hs.nextRef]
    exact h.table
  · rw [hs.lnwatcherCallbacks, hs.nextRef]
    exact h.watched
  · rw [hs.heap, hs.nextRef]
    exact h.live

omit [Deployment] in
theorem assign (ref : SwapRef) (f : SwapData → SwapData) (h : SwapsThroughout P w)
    (hhash : ∀ swap, (f swap).paymentHash = swap.paymentHash)
    (hf : ∀ swap, P swap → P (f swap)) : SwapsThroughout P (w.assign ref f) := by
  have hrec := Recorded.assign w ref f
  have hstored : ∀ d, (w.assign ref f).Stores d → ∀ k swap, d.swaps.get? k = some swap →
      RecordOk P k swap := by
    intro d hd k swap hswap
    dsimp only [World.assign] at hd
    split at hd
    · rcases World.Stores.of_patch rfl hd with hd | ⟨d₀, hd₀, hmodify⟩
      · exact h.stored d hd k swap hswap
      · split at hmodify
        · cases hmodify
          have hget := (Dict.get?_modify _ _ _ _).symm.trans hswap
          split at hget
          · next hk =>
            obtain ⟨swap₀, hswap₀, rfl⟩ := Option.map_eq_some_iff.mp hget
            obtain ⟨hkey, hP⟩ := h.stored d₀ hd₀ _ swap₀ hswap₀
            refine ⟨?_, hf _ hP⟩
            rw [hhash]
            exact hkey
          · exact h.stored d₀ hd₀ k swap hget
        · cases hmodify
    · exact h.stored d hd k swap hswap
  refine ⟨fun k ref' href => ?_, fun address ref' href => ?_, fun ref' hlt => ?_, hstored,
    h.of_views (fun v hv => .inl (hrec.views ▸ hv)) hstored⟩
  · rw [World.assign_swaps] at href
    obtain ⟨hlt, hk⟩ := h.table k ref' href
    refine ⟨by rw [World.assign_nextRef]; exact hlt, ?_⟩
    rw [World.assign_heap]
    by_cases hr : ref' = ref
    · subst hr
      rw [Function.update_self, hhash]
      exact hk
    · rw [Function.update_of_ne hr]
      exact hk
  · rw [World.assign_lnwatcherCallbacks] at href
    rw [World.assign_nextRef]
    exact h.watched address ref' href
  · rw [World.assign_nextRef] at hlt
    rw [World.assign_heap]
    by_cases hr : ref' = ref
    · subst hr
      rw [Function.update_self]
      exact hf _ (h.live ref' hlt)
    · rw [Function.update_of_ne hr]
      exact h.live ref' hlt

theorem move (hmove : Move a w₀ w w') (h : SwapsThroughout P w)
    (hnew : ∀ swap, NewSwap a swap → P swap) (hdb : ∀ swap, P swap → P { swap with db := true })
    (hassign : ∀ env address, a = .claim env address → ∀ now f, Assignment now f →
      ∀ swap, P swap → P (f swap)) : SwapsThroughout P w' := by
  have hviews : ∀ v ∈ w'.views, v ∈ w.views ∨ v.db.disk = w'.db.disk := by
    intro v hv
    rcases hmove.told.newView hv with hv | ⟨hdisk, -⟩
    · exact .inl hv
    · exact .inr hdisk
  cases hmove.swapChange with
  | none hs => exact h.tables hs hviews
  | alloc swap hswap =>
    refine ⟨fun k ref href => ?_, fun address ref href => ?_, fun ref hlt => ?_, h.stored, h.views⟩
    · obtain ⟨hlt, hk⟩ := h.table k ref href
      refine ⟨Nat.lt_succ_of_lt hlt, ?_⟩
      show k = hex (Function.update w.heap w.nextRef swap ref).paymentHash
      rw [Function.update_of_ne (Nat.ne_of_lt hlt)]
      exact hk
    · exact Nat.lt_succ_of_lt (h.watched address ref href)
    · show P (Function.update w.heap w.nextRef swap ref)
      by_cases hr : ref = w.nextRef
      · subst hr
        rw [Function.update_self]
        exact hnew swap hswap
      · rw [Function.update_of_ne hr]
        exact h.live ref (Nat.lt_of_le_of_ne (Nat.le_of_lt_succ hlt) hr)
  | store ref _ htracks =>
    have hlt : ref < w.nextRef := by
      rcases htracks with ⟨hnext, -⟩ | ⟨htracks, -⟩
      · exact hnext ▸ Nat.lt_succ_self ref
      · exact h.tracks htracks
    have hhash : ∀ ref', (Function.update w.heap ref { w.heap ref with db := true } ref').paymentHash
        = (w.heap ref').paymentHash := by
      intro ref'
      by_cases hr : ref' = ref
      · subst hr
        rw [Function.update_self]
      · rw [Function.update_of_ne hr]
    have hstored : ∀ d, (w.setSwap (hex (w.heap ref).paymentHash) ref).Stores d →
        ∀ k swap, d.swaps.get? k = some swap → RecordOk P k swap := by
      intro d hd k swap hswap
      rcases World.Stores.of_patch rfl hd with hd | ⟨d₀, hd₀, hset⟩
      · exact h.stored d hd k swap hswap
      · cases hset
        have hget := (Dict.get?_set _ _ _ _).symm.trans hswap
        split at hget
        · next hk =>
          cases hget
          exact ⟨hk, hdb _ (h.live ref hlt)⟩
        · exact h.stored d₀ hd₀ k swap hget
    refine ⟨fun k ref' href => ?_, h.watched, fun ref' hlt' => ?_, hstored,
      h.of_views hviews hstored⟩
    · refine ⟨?_, ?_⟩
      · have hget := (Dict.get?_set _ _ _ _).symm.trans href
        split at hget
        · cases hget
          exact hlt
        · exact (h.table k ref' hget).1
      · show k = hex (Function.update w.heap ref { w.heap ref with db := true } ref').paymentHash
        rw [hhash]
        have hget := (Dict.get?_set _ _ _ _).symm.trans href
        split at hget
        · next hk =>
          cases hget
          exact hk
        · exact (h.table k ref' hget).2
    · show P (Function.update w.heap ref { w.heap ref with db := true } ref')
      by_cases hr : ref' = ref
      · subst hr
        rw [Function.update_self]
        exact hdb _ (h.live ref' hlt)
      · rw [Function.update_of_ne hr]
        exact h.live ref' hlt'
  | pop k =>
    have hstored : ∀ d, (w.popSwap k).Stores d →
        ∀ k swap, d.swaps.get? k = some swap → RecordOk P k swap := by
      intro d hd k' swap hswap
      unfold World.popSwap at hd
      split at hd
      · rcases World.Stores.of_patch rfl hd with hd | ⟨d₀, hd₀, hpop⟩
        · exact h.stored d hd k' swap hswap
        · split at hpop
          · cases hpop
            exact h.stored d₀ hd₀ k' swap (Dict.get?_of_pop hswap).2
          · cases hpop
      · exact h.stored d hd k' swap hswap
    have hkept := (Quiet.popSwap k w).toSwapsKept
    have hwatch : (w.popSwap k).lnwatcherCallbacks = w.lnwatcherCallbacks := by
      unfold World.popSwap
      split <;> rfl
    refine ⟨fun k' ref href => ?_, fun address ref href => ?_, fun ref hlt => ?_, hstored,
      h.of_views hviews hstored⟩
    · rw [hkept.nextRef, hkept.heap]
      exact h.table k' ref (hkept.swaps k' ref href)
    · rw [hkept.nextRef]
      exact h.watched address ref (hwatch ▸ href)
    · rw [hkept.nextRef] at hlt
      rw [hkept.heap]
      exact h.live ref hlt
  | assign ref f env address ha hf => exact h.assign ref f hf.paymentHash (hassign env address ha _ f hf)
  | watch ref hwatch =>
    refine ⟨h.table, fun address ref' href => ?_, h.live, h.stored, h.views⟩
    have hget := (Dict.get?_set _ _ _ _).symm.trans href
    split at hget
    · cases hget
      rcases hwatch with ⟨k, hk⟩ | ⟨hlt, -⟩
      · exact (h.table k ref hk).1
      · exact hlt
    · exact h.watched address ref' hget
  | unwatch address =>
    exact ⟨h.table, fun address' ref href => h.watched address' ref (Dict.get?_of_pop href).2, h.live,
      h.stored, h.views⟩

omit [Deployment] in
theorem restart (env : Env) {view : View} (hview : view = ⟨w.db, w.trace⟩ ∨ view ∈ w.views)
    (h : SwapsThroughout P w) (hdb : ∀ swap, P swap → P { swap with db := true }) :
    SwapsThroughout P (w.restart env view) := by
  unfold World.restart
  split
  · exact h
  · next d hd =>
    have hdisk : ∀ d, view.db.disk = some d → ∀ k swap, d.swaps.get? k = some swap →
        RecordOk P k swap := by
      intro d hd
      rcases hview with rfl | hview
      · exact h.stored d (.inl hd)
      · exact h.views view hview d hd
    have hload : view.db.disk = some d := by
      unfold Db.load at hd
      split at hd
      · cases hd
      · exact hd
    refine ⟨fun k ref href => ?_, fun address ref href => ?_, fun ref hlt => ?_, fun d' hd' => ?_,
      fun v hv d' hd' => ?_⟩
    · obtain ⟨swap, hitem⟩ := Dict.getElem?_of_enumerate href
      refine ⟨(List.getElem?_eq_some_iff.mp hitem).1, ?_⟩
      dsimp only
      rw [hitem]
      rfl
    · cases href
    · have hitem : d.swaps.items[ref]? = some d.swaps.items[ref] := List.getElem?_eq_getElem hlt
      obtain ⟨hkey, hP⟩ := hdisk d hload _ _ (Dict.get?_of_mem (List.getElem_mem hlt))
      dsimp only
      rw [hitem]
      show P { d.swaps.items[ref].2 with paymentHash := d.swaps.items[ref].1.bytes, db := true }
      rw [hkey]
      exact hdb _ hP
    · refine hdisk d' ?_
      rcases hd' with hd' | hd' <;> exact hd'
    · cases List.mem_singleton.mp hv
      exact hdisk d' hd'

omit [Deployment] in
/-- Nothing but the log changes. -/
theorem say (e : Event) (h : SwapsThroughout P w) : SwapsThroughout P (w.say e) := by
  refine h.tables (.of_db ⟨rfl, rfl, rfl, rfl, rfl, rfl⟩ rfl) fun v hv => ?_
  rcases List.mem_cons.mp hv with rfl | hv
  · exact .inr rfl
  · exact .inl hv

omit [Deployment] in
theorem send (ref : SwapRef) (tx : FundingTx) (h : SwapsThroughout P w)
    (hf : ∀ swap, P swap → P { swap with fundingTxid := some tx.txid }) :
    SwapsThroughout P (w.send ref tx) :=
  (h.assign ref (fun swap => { swap with fundingTxid := some tx.txid }) (fun _ => rfl) hf).say _

omit [Deployment] in
theorem mono {Q : SwapData → Prop} (h : SwapsThroughout P w) (hPQ : ∀ swap, P swap → Q swap) :
    SwapsThroughout Q w where
  table := h.table
  watched := h.watched
  live ref hlt := hPQ _ (h.live ref hlt)
  stored d hd k swap hswap := ⟨(h.stored d hd k swap hswap).key, hPQ _ (h.stored d hd k swap hswap).holds⟩
  views v hv d hd k swap hswap :=
    ⟨(h.views v hv d hd k swap hswap).key, hPQ _ (h.views v hv d hd k swap hswap).holds⟩

omit [Deployment] in
theorem start : SwapsThroughout P World.start := by
  have hnone : ∀ k (swap : SwapData), (∅ : Dict Hex SwapData).get? k = some swap →
      RecordOk P k swap := by
    intro k swap hswap
    cases hswap
  refine ⟨fun k ref href => ?_, fun address ref href => ?_, fun ref hlt => ?_,
    fun d hd => ?_, fun v hv d hd => ?_⟩
  · cases href
  · cases href
  · exact absurd hlt (Nat.not_lt_zero ref)
  · rcases hd with hd | hd <;> cases hd <;> exact hnone
  · cases List.mem_singleton.mp hv
    cases hd
    exact hnone

end SwapsThroughout

/-! ## Invariants of the copies -/

/-- **An invariant of every hold invoice**, checked with the help of another one. -/
theorem Survives.holds {I : World → Prop} {P : HoldInvoice → Prop} (hI : Survives a w₀ I)
    (hstored : ∀ inv, P inv → P inv.stored)
    (hfresh : ∀ w inv, I w → FreshInvoice a inv → P inv)
    (halters : ∀ w k inv inv', I w → w.holdInvoices.get? k = some inv → Alters a w k inv inv' →
      P inv → P inv') :
    Survives a w₀ fun w => I w ∧ HoldsThroughout (fun _ => P) w where
  move w w' hmove hw := ⟨hI.move w w' hmove hw.1, hw.2.move hmove (fun _ => hstored) (fun _ hinv => hinv)
    (fun inv hnew _ => hfresh w inv hw.1 hnew)
    fun k inv inv' hinv hal hP => halters w k inv inv' hw.1 hinv hal hP⟩
  restart env view ha hview hw := ⟨hI.restart env view ha hview hw.1, hw.2.restart env hview⟩
  create w₁ w main ref hw₁ hdue hprepared hw href hnone :=
    ⟨hI.create w₁ w main ref hw₁.1 hdue hprepared hw.1 href hnone, hw.2.say _ hw.2.toHoldsNow⟩
  send w₁ w main ref tx hw₁ hdue hprepared hw href hnone :=
    ⟨hI.send w₁ w main ref tx hw₁.1 hdue hprepared hw.1 href hnone,
      hw.2.send ref tx fun _ _ _ => hw.2.toHoldsNow⟩

/-- **An invariant of every swap.** -/
theorem Survives.swaps {I : World → Prop} {P : SwapData → Prop} (hI : Survives a w₀ I)
    (hnew : ∀ swap, NewSwap a swap → P swap) (hdb : ∀ swap, P swap → P { swap with db := true })
    (hassign : ∀ env address, a = .claim env address → ∀ now f, Assignment now f →
      ∀ swap, P swap → P (f swap))
    (hsend : ∀ swap t, P swap → P { swap with fundingTxid := t }) :
    Survives a w₀ fun w => I w ∧ SwapsThroughout P w where
  move w w' hmove hw := ⟨hI.move w w' hmove hw.1, hw.2.move hmove hnew hdb hassign⟩
  restart env view ha hview hw := ⟨hI.restart env view ha hview hw.1, hw.2.restart env hview hdb⟩
  create w₁ w main ref hw₁ hdue hprepared hw href hnone :=
    ⟨hI.create w₁ w main ref hw₁.1 hdue hprepared hw.1 href hnone, hw.2.say _⟩
  send w₁ w main ref tx hw₁ hdue hprepared hw href hnone :=
    ⟨hI.send w₁ w main ref tx hw₁.1 hdue hprepared hw.1 href hnone,
      hw.2.send ref tx fun swap hswap => hsend swap _ hswap⟩

/-- The same invariant in other words. -/
theorem Survives.congr {I J : World → Prop} (hI : Survives a w₀ I) (hIJ : ∀ w, I w ↔ J w) :
    Survives a w₀ J :=
  (funext fun w => propext (hIJ w) : I = J) ▸ hI

/-- Nothing to start from. -/
theorem Survives.trivial : Survives a w₀ fun _ => True :=
  ⟨fun _ _ _ _ => True.intro, fun _ _ _ _ _ => True.intro, fun _ _ _ _ _ _ _ _ _ _ => True.intro,
    fun _ _ _ _ _ _ _ _ _ _ _ => True.intro⟩

/-- The tables point at swap objects that exist, and every swap is filed under its own hash. -/
theorem swaps_filed {ok : World → Action → Prop} {w : World} (h : Reachable ok w) :
    SwapsThroughout (fun _ => True) w := by
  refine Run.invariant (fun w a _ hw => ?_) h SwapsThroughout.start
  have hsurvives : Survives a w fun w => True ∧ SwapsThroughout (fun _ => True) w :=
    Survives.trivial.swaps (fun _ _ => True.intro) (fun _ _ => True.intro)
      (fun _ _ _ _ _ _ _ _ => True.intro) fun _ _ _ => True.intro
  exact (step_invariant hsurvives ⟨True.intro, hw⟩).2

end

end SubswapProvider
