import SubswapProvider.Sending

/-!
# Where the swap objects are

The swap table, the watched addresses and the chain monitor share swap objects. A swap object keeps
its database after it has left the table, and from then on its assignments record changes to an entry
that is gone. That never happens here: whoever is watched is in the table (`Filed.watched`), because an
address is given up before its swap is (`MayForget`), and because no two objects stand for one payment
hash (`Filed.unique`).
-/

namespace SubswapProvider

open Deployment Effect

/-- The swap objects of a process. -/
structure Filed (w : World) : Prop where
  unique : ∀ ref ref', ref < w.nextRef → ref' < w.nextRef →
    (w.heap ref).paymentHash = (w.heap ref').paymentHash → ref = ref'
  watched : ∀ address ref, w.lnwatcherCallbacks.get? address = some ref →
    (w.heap ref).lockupAddress = address ∧ w.swaps.get? (hex (w.heap ref).paymentHash) = some ref
  recorded : ∀ k ref, w.swaps.get? k = some ref → (w.heap ref).db = true
  idle : w.managed = false → ∀ address, w.lnwatcherCallbacks.get? address = none
  running : w.running = true → w.managed = true

/-- What tells the objects of `w` is still so in `w'`. -/
structure Labelled (w w' : World) : Prop where
  nextRef : w'.nextRef = w.nextRef
  paymentHash : ∀ ref, (w'.heap ref).paymentHash = (w.heap ref).paymentHash
  lockupAddress : ∀ ref, (w'.heap ref).lockupAddress = (w.heap ref).lockupAddress

/-- An assignment to a field that tells nothing about the object. -/
structure Unlabelling (f : SwapData → SwapData) : Prop where
  paymentHash : ∀ swap, (f swap).paymentHash = swap.paymentHash
  lockupAddress : ∀ swap, (f swap).lockupAddress = swap.lockupAddress
  db : ∀ swap, (f swap).db = swap.db

/-- What has become of the process `w₀` a step started from. -/
structure Since (w₀ w : World) : Prop where
  nextRef : w₀.nextRef ≤ w.nextRef
  paymentHash : ∀ ref, ref < w₀.nextRef → (w.heap ref).paymentHash = (w₀.heap ref).paymentHash
  managed : w₀.managed = true → w.managed = true
  idle : w₀.managed = false → ∀ address, w.lnwatcherCallbacks.get? address = none

theorem Since.refl {w : World} (hw : Filed w) : Since w w :=
  ⟨Nat.le_refl _, fun _ _ => rfl, id, hw.idle⟩

theorem unlabelling_fundingTxid (t : Option Txid) :
    Unlabelling fun swap => { swap with fundingTxid := t } :=
  ⟨fun _ => rfl, fun _ => rfl, fun _ => rfl⟩

theorem Assignment.unlabelling {now : SwapData} {f : SwapData → SwapData} (h : Assignment now f) :
    Unlabelling f := by
  cases h <;> exact ⟨fun _ => rfl, fun _ => rfl, fun _ => rfl⟩

theorem Labelled.of_heap {w w' : World} (hheap : w'.heap = w.heap) (hnext : w'.nextRef = w.nextRef) :
    Labelled w w' :=
  ⟨hnext, fun _ => by rw [hheap], fun _ => by rw [hheap]⟩

theorem Labelled.update {w w' : World} {ref : SwapRef} {f : SwapData → SwapData}
    (hheap : w'.heap = Function.update w.heap ref (f (w.heap ref))) (hnext : w'.nextRef = w.nextRef)
    (hhash : (f (w.heap ref)).paymentHash = (w.heap ref).paymentHash)
    (haddress : (f (w.heap ref)).lockupAddress = (w.heap ref).lockupAddress) : Labelled w w' := by
  refine ⟨hnext, fun ref' => ?_, fun ref' => ?_⟩
  · rw [hheap]
    by_cases hr : ref' = ref
    · subst hr
      rw [Function.update_self, hhash]
    · rw [Function.update_of_ne hr]
  · rw [hheap]
    by_cases hr : ref' = ref
    · subst hr
      rw [Function.update_self, haddress]
    · rw [Function.update_of_ne hr]

theorem Unlabelling.labelled {f : SwapData → SwapData} (hf : Unlabelling f) (ref : SwapRef)
    (w : World) : Labelled w (w.assign ref f) :=
  .update (World.assign_heap ref f w) (World.assign_nextRef ref f w) (hf.paymentHash _)
    (hf.lockupAddress _)

theorem Filed.labelled {w w' : World} (h : Filed w) (hl : Labelled w w') :
    ∀ ref ref', ref < w'.nextRef → ref' < w'.nextRef →
      (w'.heap ref).paymentHash = (w'.heap ref').paymentHash → ref = ref' := by
  intro ref ref' href href' heq
  rw [hl.nextRef] at href href'
  rw [hl.paymentHash, hl.paymentHash] at heq
  exact h.unique ref ref' href href' heq

/-- An assignment moves no swap object. -/
theorem Filed.assign {w : World} {f : SwapData → SwapData} (ref : SwapRef) (hf : Unlabelling f)
    (h : Filed w) : Filed (w.assign ref f) := by
  have hl := hf.labelled ref w
  refine ⟨h.labelled hl, fun address ref' href => ?_, fun k ref' href => ?_, fun hm => ?_, fun hr => ?_⟩
  · rw [World.assign_lnwatcherCallbacks] at href
    rw [hl.lockupAddress, hl.paymentHash, World.assign_swaps]
    exact h.watched address ref' href
  · rw [World.assign_swaps] at href
    rw [World.assign_heap]
    by_cases heq : ref' = ref
    · subst heq
      rw [Function.update_self, hf.db]
      exact h.recorded k ref' href
    · rw [Function.update_of_ne heq]
      exact h.recorded k ref' href
  · rw [World.assign_lnwatcherCallbacks]
    rw [World.assign_managed] at hm
    exact h.idle hm
  · have hrunning : w.running = true := by
      unfold World.running at hr ⊢
      rw [World.assign_invoicesToPay] at hr
      exact hr
    rw [World.assign_managed]
    exact h.running hrunning

theorem Filed.say {w : World} (e : Event) (h : Filed w) : Filed (w.say e) :=
  ⟨h.unique, h.watched, h.recorded, h.idle, h.running⟩

/-- A new process has an object for each record it finds. -/
theorem Filed.restart (env : Env) (view : View) {w : World} (h : Filed w) :
    Filed (w.restart env view) := by
  unfold World.restart
  split
  · exact h
  · next d _ =>
    refine ⟨fun ref ref' href href' heq => ?_, fun address ref href => ?_, fun k ref href => ?_,
      fun _ _ => rfl, fun hr => ?_⟩
    · dsimp only at heq
      have hitem : d.swaps.items[ref]? = some d.swaps.items[ref] := List.getElem?_eq_getElem href
      have hitem' : d.swaps.items[ref']? = some d.swaps.items[ref'] := List.getElem?_eq_getElem href'
      rw [hitem, hitem'] at heq
      have hkey : d.swaps.items[ref].1 = d.swaps.items[ref'].1 := congrArg hex heq
      refine (List.getElem?_inj (by simpa using href) d.swaps.nodup).mp ?_
      rw [List.getElem?_map, List.getElem?_map, hitem, hitem']
      exact congrArg some hkey
    · cases href
    · obtain ⟨swap, hitem⟩ := Dict.getElem?_of_enumerate href
      dsimp only
      rw [hitem]
    · cases hr

section

variable [Deployment] {past : List Action} {a : Action} {w₀ w w' : World}

/-- `SwapManager.__init__` is not undone, and comes first. -/
theorem Move.stage (h : Move a w₀ w w') : (w.managed = true → w'.managed = true) ∧
    (w'.running = true → w.running = true ∨ w₀.managed = true) := by
  cases h with
  | setPreimage k v => unfold World.setPreimage; split <;> exact ⟨id, .inl⟩
  | popPreimage k _ => unfold World.popPreimage; split <;> exact ⟨id, .inl⟩
  | setInvoice k v => unfold World.setInvoice; split <;> exact ⟨id, .inl⟩
  | popInvoice k => unfold World.popInvoice; split <;> exact ⟨id, .inl⟩
  | createHold invoice => dsimp only [World.setHoldInvoice]; split <;> exact ⟨id, .inl⟩
  | popHold k => unfold World.popHoldInvoice; split <;> exact ⟨id, .inl⟩
  | updateHold k invoice =>
    dsimp only [World.replaceHold, World.setHoldInvoice, World.popHoldInvoice]
    split <;> split <;> exact ⟨id, .inl⟩
  | bundle k invoice p =>
    dsimp only [World.replaceHold, World.setHoldInvoice, World.popHoldInvoice]
    split <;> split <;> exact ⟨id, .inl⟩
  | resolveHtlc k invoice htlc request st res => unfold World.answered; split <;> exact ⟨id, .inl⟩
  | answerHook request res => unfold World.answered; split <;> exact ⟨id, .inl⟩
  | popSwap k => unfold World.popSwap; split <;> exact ⟨id, .inl⟩
  | assign ref f => dsimp only [World.assign]; split <;> exact ⟨id, .inl⟩
  | startPaying h => exact ⟨id, fun _ => .inr h.1⟩
  | setToPay key toPay t htoPay =>
    refine ⟨id, fun _ => .inl ?_⟩
    unfold World.running
    rw [htoPay]
    rfl
  | popToPay key toPay htoPay =>
    refine ⟨id, fun _ => .inl ?_⟩
    unfold World.running
    rw [htoPay]
    rfl
  | manage => exact ⟨fun _ => rfl, .inl⟩
  | _ => exact ⟨id, .inl⟩

/-- What a change of the swaps leaves of the watched addresses. -/
theorem SwapChange.watched_stays {address : Address} {ref : SwapRef} (h : SwapChange a w₀ w w')
    (href : w'.lnwatcherCallbacks.get? address = some ref) :
    w.lnwatcherCallbacks.get? address = some ref ∨ w₀.managed = true ∨ w₀.running = true := by
  cases h with
  | none hs => exact .inl (hs.lnwatcherCallbacks ▸ href)
  | alloc swap => exact .inl href
  | store ref' => exact .inl href
  | pop k =>
    unfold World.popSwap at href
    split at href <;> exact .inl href
  | assign ref' f =>
    rw [World.assign_lnwatcherCallbacks] at href
    exact .inl href
  | watch ref' _ hstage => exact .inr hstage
  | unwatch address' => exact .inl (Dict.get?_of_pop href).2

theorem SwapChange.labelled (h : SwapChange a w₀ w w') : Labelled w w' ∨
    ∃ swap, NewSwap a swap ∧ w.nextRef = w₀.nextRef ∧ w' = w.allocSwap swap := by
  cases h with
  | none hs => exact .inl (.of_heap hs.heap hs.nextRef)
  | alloc swap hnew hfirst => exact .inr ⟨swap, hnew, hfirst, rfl⟩
  | store ref => exact .inl (.update (f := fun swap => { swap with db := true }) rfl rfl rfl rfl)
  | pop k =>
    have hkept := (Quiet.popSwap k w).toSwapsKept
    exact .inl (.of_heap hkept.heap hkept.nextRef)
  | assign ref f env address ha hf => exact .inl (hf.unlabelling.labelled ref w)
  | watch ref => exact .inl (.of_heap rfl rfl)
  | unwatch address => exact .inl (.of_heap rfl rfl)

theorem NewSwap.hash {swap : SwapData} (h : NewSwap a swap) : swap.paymentHash ∈ a.hashes := by
  cases hr : swap.isReverse with
  | false =>
    obtain ⟨p, hpair, -⟩ := h.normal hr
    exact Action.main_mem hpair
  | true => exact Action.reverse_mem (h.reverse hr).1

/-! ## The moves -/

section

variable (hd : DistinctHashes (past ++ [a])) (hw₀ : Filed w₀) (hprov₀ : Provenance past w₀)
  (hprov : Provenance (past ++ [a]) w) (hmove : Move a w₀ w w') (hs : Since w₀ w) (h : Filed w)

include hd hprov₀ hs in
/-- A new object is not for the payment hash of an old one. -/
theorem Since.new_ne (hfirst : w.nextRef = w₀.nextRef) {swap : SwapData} (hnew : NewSwap a swap)
    {ref : SwapRef} (href : ref < w.nextRef) : (w.heap ref).paymentHash ≠ swap.paymentHash := by
  intro heq
  have hlt : ref < w₀.nextRef := hfirst ▸ href
  have hused : Used past (w₀.heap ref).paymentHash := (hprov₀.swaps.live ref hlt).used
  rw [← hs.paymentHash ref hlt, heq] at hused
  exact hd.fresh hnew.hash hused

include hw₀ hmove hs in
theorem Since.move : Since w₀ w' := by
  refine ⟨?_, fun ref href => ?_, fun hm => hmove.stage.1 (hs.managed hm), fun hm address => ?_⟩
  · rcases hmove.swapChange.labelled with hl | ⟨swap, -, -, rfl⟩
    · rw [hl.nextRef]
      exact hs.nextRef
    · exact Nat.le_succ_of_le hs.nextRef
  · rcases hmove.swapChange.labelled with hl | ⟨swap, -, -, rfl⟩
    · rw [hl.paymentHash]
      exact hs.paymentHash ref href
    · have hne : ref ≠ w.nextRef := Nat.ne_of_lt (Nat.lt_of_lt_of_le href hs.nextRef)
      show (Function.update w.heap w.nextRef swap ref).paymentHash = _
      rw [Function.update_of_ne hne]
      exact hs.paymentHash ref href
  · cases href : w'.lnwatcherCallbacks.get? address with
    | none => rfl
    | some ref =>
      rcases hmove.swapChange.watched_stays href with hold | hold | hold
      · rw [hs.idle hm address] at hold
        cases hold
      · rw [hm] at hold
        cases hold
      · rw [hw₀.running hold] at hm
        cases hm

include hd hprov₀ hs hmove h in
theorem Filed.unique_move : ∀ ref ref', ref < w'.nextRef → ref' < w'.nextRef →
    (w'.heap ref).paymentHash = (w'.heap ref').paymentHash → ref = ref' := by
  rcases hmove.swapChange.labelled with hl | ⟨swap, hnew, hfirst, rfl⟩
  · exact h.labelled hl
  · have hother : ∀ ref, ref < w.nextRef → (w.allocSwap swap).heap ref = w.heap ref :=
      fun ref href => Function.update_of_ne (Nat.ne_of_lt href) _ _
    have hself : (w.allocSwap swap).heap w.nextRef = swap := Function.update_self _ _ _
    intro ref ref' href href' heq
    rcases Nat.lt_or_eq_of_le (Nat.le_of_lt_succ href) with hlt | rfl
    · rw [hother ref hlt] at heq
      rcases Nat.lt_or_eq_of_le (Nat.le_of_lt_succ href') with hlt' | rfl
      · rw [hother ref' hlt'] at heq
        exact h.unique ref ref' hlt hlt' heq
      · rw [hself] at heq
        exact absurd heq (hs.new_ne hd hprov₀ hfirst hnew hlt)
    · rcases Nat.lt_or_eq_of_le (Nat.le_of_lt_succ href') with hlt' | rfl
      · rw [hself, hother ref' hlt'] at heq
        exact absurd heq.symm (hs.new_ne hd hprov₀ hfirst hnew hlt')
      · rfl

include hprov₀ hprov hs in
/-- Whoever had a swap object at hand has one of the process. -/
theorem Since.had {ref : SwapRef} (hhad : w₀.Had ref w) : ref < w.nextRef := by
  rcases hhad with htracks | ⟨k, hk⟩
  · exact Nat.lt_of_lt_of_le (hprov₀.swaps.tracks htracks) hs.nextRef
  · exact (hprov.swaps.table k ref hk).1

include hprov h in
/-- An address is watched for the swap that is stored. -/
theorem Filed.stored_of_contains {ref : SwapRef} (href : ref < w.nextRef)
    (hcontains : w.swaps.contains (hex (w.heap ref).paymentHash) = true) :
    w.swaps.get? (hex (w.heap ref).paymentHash) = some ref := by
  obtain ⟨ref', href'⟩ := Dict.contains_iff.mp hcontains
  obtain ⟨hlt, hkey⟩ := hprov.swaps.table _ ref' href'
  have heq : ref = ref' := h.unique ref ref' href hlt (hex_inj.mp hkey)
  rw [href', heq]

include hprov₀ hprov hs h in
/-- Forgetting a swap leaves the watched ones alone. -/
theorem Filed.watched_pop {k : Hex} (hforget : MayForget w₀ w k) {address : Address} {ref : SwapRef}
    (href : w.lnwatcherCallbacks.get? address = some ref) :
    hex (w.heap ref).paymentHash ≠ k := by
  intro hk
  cases hforget with
  | ended ref' hk' hhad hunwatched =>
    rw [hk'] at hk
    have heq : ref = ref' := h.unique ref ref' (hprov.swaps.watched address ref href)
      (hs.had hprov₀ hprov hhad) (hex_inj.mp hk)
    subst heq
    rw [(h.watched address ref href).1, href] at hunwatched
    cases hunwatched
  | orphaned hstage =>
    rw [hs.idle hstage address] at href
    cases href

include hprov₀ hprov hmove hs h in
theorem Filed.watched_move : ∀ address ref, w'.lnwatcherCallbacks.get? address = some ref →
    (w'.heap ref).lockupAddress = address ∧
      w'.swaps.get? (hex (w'.heap ref).paymentHash) = some ref := by
  intro address ref href
  cases hmove.swapChange with
  | none htables =>
    rw [htables.lnwatcherCallbacks] at href
    rw [htables.heap, htables.swaps]
    exact h.watched address ref href
  | alloc swap =>
    have hlt := hprov.swaps.watched address ref href
    have hheap : (w.allocSwap swap).heap ref = w.heap ref :=
      Function.update_of_ne (Nat.ne_of_lt hlt) _ _
    rw [hheap]
    exact h.watched address ref href
  | store ref' hnone =>
    have hl : Labelled w (w.setSwap (hex (w.heap ref').paymentHash) ref') :=
      .update (f := fun swap => { swap with db := true }) rfl rfl rfl rfl
    obtain ⟨haddress, hstored⟩ := h.watched address ref href
    rw [hl.lockupAddress, hl.paymentHash]
    refine ⟨haddress, ?_⟩
    have hne : hex (w.heap ref).paymentHash ≠ hex (w.heap ref').paymentHash := by
      intro heq
      rw [← heq, Dict.contains, hstored] at hnone
      cases hnone
    exact (Dict.get?_set_ne _ _ hne).trans hstored
  | pop k hforget =>
    have hkept := (Quiet.popSwap k w).toSwapsKept
    have href : w.lnwatcherCallbacks.get? address = some ref := by
      unfold World.popSwap at href
      split at href <;> exact href
    obtain ⟨haddress, hstored⟩ := h.watched address ref href
    rw [hkept.heap]
    refine ⟨haddress, ?_⟩
    have hne := h.watched_pop hprov₀ hprov hs hforget href
    unfold World.popSwap
    split
    · exact (Dict.get?_pop_ne _ hne).trans hstored
    · exact hstored
  | assign ref' f env address' ha hf => exact (h.assign ref' hf.unlabelling).watched address ref href
  | watch ref' hwatch =>
    have hget := (Dict.get?_set _ _ _ _).symm.trans href
    split at hget
    · next haddress =>
      cases hget
      refine ⟨haddress.symm, ?_⟩
      rcases hwatch with ⟨k, hk⟩ | ⟨hlt, hcontains⟩
      · rw [(hprov.swaps.table k ref hk).2] at hk
        exact hk
      · exact h.stored_of_contains hprov hlt hcontains
    · exact h.watched address ref hget
  | unwatch address' => exact h.watched address ref (Dict.get?_of_pop href).2

include hprov hmove h in
theorem Filed.recorded_move : ∀ k ref, w'.swaps.get? k = some ref → (w'.heap ref).db = true := by
  intro k ref href
  cases hmove.swapChange with
  | none htables =>
    rw [htables.swaps] at href
    rw [htables.heap]
    exact h.recorded k ref href
  | alloc swap =>
    have hheap : (w.allocSwap swap).heap ref = w.heap ref :=
      Function.update_of_ne (Nat.ne_of_lt (hprov.swaps.table k ref href).1) _ _
    rw [hheap]
    exact h.recorded k ref href
  | store ref' =>
    show (Function.update w.heap ref' { w.heap ref' with db := true } ref).db = true
    by_cases hr : ref = ref'
    · subst hr
      rw [Function.update_self]
    · rw [Function.update_of_ne hr]
      have hget := (Dict.get?_set _ _ _ _).symm.trans href
      split at hget
      · cases hget
        exact absurd rfl hr
      · exact h.recorded k ref hget
  | pop k' =>
    have hkept := (Quiet.popSwap k' w).toSwapsKept
    rw [hkept.heap]
    exact h.recorded k ref (hkept.swaps k ref href)
  | assign ref' f env address ha hf => exact (h.assign ref' hf.unlabelling).recorded k ref href
  | watch ref' => exact h.recorded k ref href
  | unwatch address => exact h.recorded k ref href

include hd hw₀ hprov₀ hprov hmove hs h in
theorem Filed.move : Filed w' := by
  refine ⟨h.unique_move hd hprov₀ hmove hs, h.watched_move hprov₀ hprov hmove hs,
    h.recorded_move hprov hmove, fun hm address => ?_, fun hr => ?_⟩
  · have hunmanaged : w.managed = false := by
      cases hmanaged : w.managed with
      | false => rfl
      | true =>
        rw [hmove.stage.1 hmanaged] at hm
        cases hm
    cases href : w'.lnwatcherCallbacks.get? address with
    | none => rfl
    | some ref =>
      have hstaged : w₀.managed = true → w.managed = false → False := by
        intro hm₀ hm
        rw [hs.managed hm₀] at hm
        cases hm
      rcases hmove.swapChange.watched_stays href with hold | hold | hold
      · rw [h.idle hunmanaged address] at hold
        cases hold
      · exact (hstaged hold hunmanaged).elim
      · exact (hstaged (hw₀.running hold) hunmanaged).elim
  · rcases hmove.stage.2 hr with hr | hm₀
    · exact hmove.stage.1 (h.running hr)
    · exact hmove.stage.1 (hs.managed hm₀)

end

omit [Deployment] in
theorem filed_start : Filed World.start := by
  refine ⟨fun ref ref' href => absurd href (Nat.not_lt_zero ref), fun address ref href => ?_,
    fun k ref href => ?_, fun _ _ => rfl, fun hr => ?_⟩
  · cases href
  · cases href
  · cases hr

end

end SubswapProvider
