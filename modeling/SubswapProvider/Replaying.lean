import SubswapProvider.Filing

/-!
# The queued patches replay

With the pending changes behind it the content of the datastore stands for the tables of the process:
every patch applies, and to the entry it was recorded for (`Replays`). What makes it hold is `Filed`:
the one patch that can miss its entry is that of an assignment to a swap, and only objects that are in
the table are assigned to.
-/

namespace SubswapProvider

open Deployment Effect

/-- The document has what the tables have. Hold invoices are changed in place, so the document may have
an older state of one. -/
structure World.Mirrors (w : World) (d : Doc) : Prop where
  preimages : ∀ k, d.preimages.get? k = w.preimages.get? k
  invoices : ∀ k, d.invoices.get? k = w.invoices.get? k
  holdInvoices : ∀ k, (d.holdInvoices.get? k).isSome = (w.holdInvoices.get? k).isSome
  swaps : ∀ k, d.swaps.get? k = w.swap? k

/-- The patches queued lead to the tables, and without pending patches the datastore is there. -/
structure Replays (w : World) : Prop where
  queued : ∃ d, w.db.queued = some d ∧ w.Mirrors d
  disk : w.db.pending = false → w.db.disk = w.db.queued
  modified : w.db.pending = true → w.db.modified = true

namespace World.Mirrors

variable {w : World} {d : Doc}

theorem contains_preimages (h : w.Mirrors d) (k : Hex) :
    d.preimages.contains k = w.preimages.contains k := by
  unfold Dict.contains
  rw [h.preimages]

theorem contains_invoices (h : w.Mirrors d) (k : Hex) :
    d.invoices.contains k = w.invoices.contains k := by
  unfold Dict.contains
  rw [h.invoices]

theorem contains_swaps (h : w.Mirrors d) (k : Hex) : d.swaps.contains k = w.swaps.contains k := by
  unfold Dict.contains
  rw [h.swaps, World.swap?, Option.isSome_map]

/-- The document a consolidating write stores. -/
theorem doc (w : World) : w.Mirrors w.doc where
  preimages _ := rfl
  invoices _ := rfl
  holdInvoices k := by
    show (w.holdInvoices.stored.get? k).isSome = _
    rw [HoldInvoices.get?_stored, Option.isSome_map]
  swaps k := Dict.get?_mapVals w.heap w.swaps k

end World.Mirrors

namespace Replays

variable {w w' : World}

/-- The store is left alone. -/
theorem of_db (hdb : w'.db = w.db) (hm : ∀ d, w.Mirrors d → w'.Mirrors d) (h : Replays w) :
    Replays w' := by
  obtain ⟨d, hd, hmirrors⟩ := h.queued
  refine ⟨⟨d, ?_, hm d hmirrors⟩, ?_, ?_⟩
  · rw [hdb]
    exact hd
  · rw [hdb]
    exact h.disk
  · rw [hdb]
    exact h.modified

/-- A patch is recorded. -/
theorem of_patch {patch : Doc → Option Doc} (hdb : w'.db = w.db.addPatch patch)
    (hm : ∀ d, w.Mirrors d → ∃ d', patch d = some d' ∧ w'.Mirrors d') (h : Replays w) :
    Replays w' := by
  obtain ⟨d, hd, hmirrors⟩ := h.queued
  obtain ⟨d', hd', hmirrors'⟩ := hm d hmirrors
  refine ⟨⟨d', ?_, hmirrors'⟩, fun hp => ?_, fun _ => ?_⟩
  · rw [hdb]
    show w.db.queued.bind patch = some d'
    rw [hd]
    exact hd'
  · rw [hdb] at hp
    cases hp
  · rw [hdb]
    rfl

theorem some_if {c : Doc → Bool} {f : Doc → Doc}
    (hdb : w'.db = w.db.addPatch fun d => if c d then some (f d) else none)
    (hc : ∀ d, w.Mirrors d → c d = true) (hf : ∀ d, w.Mirrors d → w'.Mirrors (f d)) (h : Replays w) :
    Replays w' :=
  h.of_patch hdb fun d hm => ⟨f d, if_pos (hc d hm), hf d hm⟩

theorem none_if {c : Doc → Bool} {f : Doc → Doc}
    (hdb : w'.db = w.db.addPatch fun d => if c d then none else some (f d))
    (hc : ∀ d, w.Mirrors d → c d = false) (hf : ∀ d, w.Mirrors d → w'.Mirrors (f d)) (h : Replays w) :
    Replays w' :=
  h.of_patch hdb fun d hm => ⟨f d, if_neg (by simp [hc d hm]), hf d hm⟩

theorem consolidate (w : World) : Replays w.consolidate where
  queued := by
    have hm := World.Mirrors.doc w
    exact ⟨w.doc, rfl, hm.preimages, hm.invoices, hm.holdInvoices, hm.swaps⟩
  disk _ := rfl
  modified hp := nomatch hp

theorem append (h : Replays w) : Replays w.append := by
  obtain ⟨d, hd, hm⟩ := h.queued
  exact ⟨⟨d, hd, hm.preimages, hm.invoices, hm.holdInvoices, hm.swaps⟩, fun _ => rfl,
    fun hp => nomatch hp⟩

theorem setPreimage (k : Hex) (v : Bytes) (h : Replays w) : Replays (w.setPreimage k v) := by
  unfold World.setPreimage
  split
  · exact h
  · refine h.none_if (c := fun d => w.preimages.contains k && !d.preimages.contains k)
      (f := fun d => { d with preimages := d.preimages.set k v }) rfl (fun d hm => ?_) fun d hm => ?_
    · rw [hm.contains_preimages, Bool.and_not_self]
    · refine ⟨fun k' => ?_, hm.invoices, hm.holdInvoices, hm.swaps⟩
      apply (Dict.get?_set _ _ _ _).trans
      rw [hm.preimages]
      exact (Dict.get?_set _ _ _ _).symm

theorem popPreimage (k : Hex) (h : Replays w) : Replays (w.popPreimage k) := by
  unfold World.popPreimage
  split
  · next hc =>
    refine h.some_if (c := fun d => d.preimages.contains k)
      (f := fun d => { d with preimages := d.preimages.pop k }) rfl (fun d hm => ?_) fun d hm => ?_
    · rw [hm.contains_preimages]
      exact hc
    · refine ⟨fun k' => ?_, hm.invoices, hm.holdInvoices, hm.swaps⟩
      apply (Dict.get?_pop _ _ _).trans
      rw [hm.preimages]
      exact (Dict.get?_pop _ _ _).symm
  · exact h

theorem setInvoice (k : Hex) (v : Invoice) (h : Replays w) : Replays (w.setInvoice k v) := by
  unfold World.setInvoice
  split
  · exact h
  · refine h.none_if (c := fun d => w.invoices.contains k && !d.invoices.contains k)
      (f := fun d => { d with invoices := d.invoices.set k v }) rfl (fun d hm => ?_) fun d hm => ?_
    · rw [hm.contains_invoices, Bool.and_not_self]
    · refine ⟨hm.preimages, fun k' => ?_, hm.holdInvoices, hm.swaps⟩
      apply (Dict.get?_set _ _ _ _).trans
      rw [hm.invoices]
      exact (Dict.get?_set _ _ _ _).symm

theorem popInvoice (k : Hex) (h : Replays w) : Replays (w.popInvoice k) := by
  unfold World.popInvoice
  split
  · next hc =>
    refine h.some_if (c := fun d => d.invoices.contains k)
      (f := fun d => { d with invoices := d.invoices.pop k }) rfl (fun d hm => ?_) fun d hm => ?_
    · rw [hm.contains_invoices]
      exact hc
    · refine ⟨hm.preimages, fun k' => ?_, hm.holdInvoices, hm.swaps⟩
      apply (Dict.get?_pop _ _ _).trans
      rw [hm.invoices]
      exact (Dict.get?_pop _ _ _).symm
  · exact h

theorem setHoldInvoice (invoice : HoldInvoice) (h : Replays w) : Replays (w.setHoldInvoice invoice) := by
  dsimp only [World.setHoldInvoice]
  split
  · exact h
  · refine h.none_if (c := fun d => (w.holdInvoices.get? (hex invoice.paymentHash)).isSome &&
        (d.holdInvoices.get? (hex invoice.paymentHash)).isNone)
      (f := fun d => { d with holdInvoices := d.holdInvoices.set invoice.stored }) rfl
      (fun d hm => ?_) fun d hm => ?_
    · rw [← Option.not_isSome, hm.holdInvoices, Bool.and_not_self]
    · refine ⟨hm.preimages, hm.invoices, fun k' => ?_, hm.swaps⟩
      show ((d.holdInvoices.set invoice.stored).get? k').isSome =
        ((w.holdInvoices.set invoice).get? k').isSome
      rw [HoldInvoices.get?_set, HoldInvoices.get?_set, HoldInvoice.paymentHash_stored]
      by_cases hk : k' = hex invoice.paymentHash
      · rw [if_pos hk, if_pos hk]
        rfl
      · rw [if_neg hk, if_neg hk]
        exact hm.holdInvoices k'

theorem popHoldInvoice (k : Hex) (h : Replays w) : Replays (w.popHoldInvoice k) := by
  unfold World.popHoldInvoice
  split
  · next hc =>
    refine h.some_if (c := fun d => (d.holdInvoices.get? k).isSome)
      (f := fun d => { d with holdInvoices := d.holdInvoices.pop k }) rfl (fun d hm => ?_) fun d hm => ?_
    · rw [hm.holdInvoices]
      exact hc
    · refine ⟨hm.preimages, hm.invoices, fun k' => ?_, hm.swaps⟩
      show ((d.holdInvoices.pop k).get? k').isSome = ((w.holdInvoices.pop k).get? k').isSome
      rw [HoldInvoices.get?_pop, HoldInvoices.get?_pop]
      by_cases hk : k' = k
      · rw [if_pos hk, if_pos hk]
      · rw [if_neg hk, if_neg hk]
        exact hm.holdInvoices k'
  · exact h

theorem replaceHold (k : Hex) (invoice : HoldInvoice) (h : Replays w) :
    Replays (w.replaceHold k invoice) :=
  (h.popHoldInvoice k).setHoldInvoice invoice

theorem mutHoldInvoice (k : Hex) (f : HoldInvoice → HoldInvoice)
    (hf : ∀ inv, (f inv).paymentHash = inv.paymentHash) (h : Replays w) :
    Replays (w.mutHoldInvoice k f hf) := by
  refine h.of_db (w := w) rfl fun d hm => ⟨hm.preimages, hm.invoices, fun k' => ?_, hm.swaps⟩
  have hget : (w.mutHoldInvoice k f hf).holdInvoices.get? k' = _ := World.get?_mutHoldInvoice k'
  rw [hget, hm.holdInvoices]
  split
  · next hk => rw [Option.isSome_map, hk]
  · rfl

theorem say (e : Event) (h : Replays w) : Replays (w.say e) :=
  h.of_db (w := w) rfl fun _ hm => ⟨hm.preimages, hm.invoices, hm.holdInvoices, hm.swaps⟩

theorem answered (request : Request) (res : HookResult) (h : Replays w) :
    Replays (w.answered request res) := by
  obtain ⟨e, heq⟩ := World.answered_eq request res w
  rw [heq]
  exact h.say e

theorem popSwap (k : Hex) (h : Replays w) : Replays (w.popSwap k) := by
  unfold World.popSwap
  split
  · next hc =>
    refine h.some_if (c := fun d => d.swaps.contains k)
      (f := fun d => { d with swaps := d.swaps.pop k }) rfl (fun d hm => ?_) fun d hm => ?_
    · rw [hm.contains_swaps]
      exact hc
    · refine ⟨hm.preimages, hm.invoices, hm.holdInvoices, fun k' => ?_⟩
      show (d.swaps.pop k).get? k' = ((w.swaps.pop k).get? k').map w.heap
      rw [Dict.get?_pop, Dict.get?_pop, hm.swaps]
      split
      · rfl
      · rfl
  · exact h

theorem setSwap {ref : SwapRef}
    (htable : ∀ k ref, w.swaps.get? k = some ref → k = hex (w.heap ref).paymentHash)
    (h : Replays w) : Replays (w.setSwap (hex (w.heap ref).paymentHash) ref) := by
  refine h.of_patch rfl fun d hm => ⟨_, rfl, hm.preimages, hm.invoices, hm.holdInvoices, fun k => ?_⟩
  show (d.swaps.set (hex (w.heap ref).paymentHash) { w.heap ref with db := true }).get? k =
    ((w.swaps.set (hex (w.heap ref).paymentHash) ref).get? k).map
      (Function.update w.heap ref { w.heap ref with db := true })
  rw [Dict.get?_set, Dict.get?_set]
  split
  · rw [Option.map_some, Function.update_self]
  · next hk =>
    rw [hm.swaps]
    unfold World.swap?
    cases href : w.swaps.get? k with
    | none => rfl
    | some ref' =>
      have hne : ref' ≠ ref := fun heq => hk (heq ▸ htable k ref' href)
      rw [Option.map_some, Option.map_some, Function.update_of_ne hne]

/-- The object assigned to is in the table. -/
theorem assign {ref : SwapRef} {f : SwapData → SwapData}
    (htable : ∀ k ref, w.swaps.get? k = some ref → k = hex (w.heap ref).paymentHash)
    (hstored : w.swaps.get? (hex (w.heap ref).paymentHash) = some ref)
    (hdb : (w.heap ref).db = true) (h : Replays w) : Replays (w.assign ref f) := by
  by_cases hf : f (w.heap ref) = w.heap ref
  · rw [World.assign_of_eq hf]
    exact h
  · have hassign : (w.assign ref f).db = w.db.addPatch fun d =>
        if d.swaps.contains (hex (w.heap ref).paymentHash) then
          some { d with swaps := d.swaps.modify (hex (w.heap ref).paymentHash) f }
        else none := by
      dsimp only [World.assign]
      rw [if_pos ⟨hdb, hf⟩]
    refine h.some_if (c := fun d => d.swaps.contains (hex (w.heap ref).paymentHash))
      (f := fun d => { d with swaps := d.swaps.modify (hex (w.heap ref).paymentHash) f }) hassign
      (fun d hm => ?_) fun d hm => ?_
    · rw [hm.contains_swaps, Dict.contains, hstored]
      rfl
    · refine ⟨?_, ?_, ?_, fun k => ?_⟩
      · rw [World.assign_preimages]
        exact hm.preimages
      · rw [World.assign_invoices]
        exact hm.invoices
      · rw [World.assign_holdInvoices]
        exact hm.holdInvoices
      · show (d.swaps.modify (hex (w.heap ref).paymentHash) f).get? k =
          ((w.assign ref f).swaps.get? k).map (w.assign ref f).heap
        rw [Dict.get?_modify, World.assign_swaps, World.assign_heap, hm.swaps]
        unfold World.swap?
        split
        · next hk =>
          subst hk
          rw [hstored, Option.map_some, Option.map_some, Option.map_some, Function.update_self]
        · next hk =>
          cases href : w.swaps.get? k with
          | none => rfl
          | some ref' =>
            have hne : ref' ≠ ref := fun heq => hk (heq ▸ htable k ref' href)
            rw [Option.map_some, Option.map_some, Function.update_of_ne hne]

theorem allocSwap (swap : SwapData) (hlt : ∀ k ref, w.swaps.get? k = some ref → ref < w.nextRef)
    (h : Replays w) : Replays (w.allocSwap swap) := by
  refine h.of_db (w := w) rfl fun d hm => ⟨hm.preimages, hm.invoices, hm.holdInvoices, fun k => ?_⟩
  rw [hm.swaps]
  show (w.swaps.get? k).map w.heap = (w.swaps.get? k).map (Function.update w.heap w.nextRef swap)
  cases href : w.swaps.get? k with
  | none => rfl
  | some ref => rw [Option.map_some, Option.map_some, Function.update_of_ne (Nat.ne_of_lt (hlt k ref href))]

/-- A new process has what it finds. -/
theorem restart (env : Env) {view : View}
    (hrecords : ∀ d, view.db.disk = some d → ∀ k swap, d.swaps.get? k = some swap →
      k = hex swap.paymentHash ∧ swap.db = true) (h : Replays w) : Replays (w.restart env view) := by
  unfold World.restart
  split
  · exact h
  · next d hload =>
    have hdisk : view.db.disk = some d := by
      unfold Db.load at hload
      split at hload
      · cases hload
      · exact hload
    refine ⟨⟨d, hdisk, fun _ => rfl, fun _ => rfl, fun _ => rfl, fun k => ?_⟩, fun _ => rfl, fun hp => ?_⟩
    · dsimp only [World.swap?]
      cases href : d.swaps.enumerate.get? k with
      | none =>
        rw [Option.map_none]
        exact Dict.get?_of_enumerate_none href
      | some ref =>
        obtain ⟨swap, hitem⟩ := Dict.getElem?_of_enumerate href
        have hget : d.swaps.get? k = some swap := Dict.get?_of_mem (List.mem_of_getElem? hitem)
        obtain ⟨hk, hdb⟩ := hrecords d hdisk k swap hget
        rw [Option.map_some, hget, hitem, hk]
        show some swap = some { swap with paymentHash := swap.paymentHash, db := true }
        rw [← hdb]
    · show (view.db.blank || env.hasPatches) = true
      have hblank : view.db.blank = true := hp
      rw [hblank, Bool.true_or]

end Replays

section

variable [Deployment] {actions : List Action} {a : Action} {w₀ w w' : World}

theorem Replays.move (hprov : Provenance actions w) (hfiled : Filed w) (hmove : Move a w₀ w w')
    (h : Replays w) : Replays w' := by
  have htable : ∀ k ref, w.swaps.get? k = some ref → k = hex (w.heap ref).paymentHash :=
    fun k ref href => (hprov.swaps.table k ref href).2
  cases hmove with
  | count n =>
    obtain ⟨d, hd, hm⟩ := h.queued
    exact ⟨⟨d, hd, hm.preimages, hm.invoices, hm.holdInvoices, hm.swaps⟩, h.disk, h.modified⟩
  | consolidate => exact .consolidate w
  | append => exact h.append
  | setPreimage k v => exact h.setPreimage k v
  | popPreimage k _ => exact h.popPreimage k
  | setInvoice k v => exact h.setInvoice k v
  | popInvoice k => exact h.popInvoice k
  | createHold invoice => exact h.setHoldInvoice invoice
  | updateHold k invoice => exact h.replaceHold k invoice
  | bundle k invoice p => exact h.replaceHold k _
  | popHold k => exact h.popHoldInvoice k
  | replayHtlc => exact h.mutHoldInvoice _ _ _
  | addHtlc => exact h.mutHoldInvoice _ _ _
  | resolveHtlc k invoice htlc request st res => exact (h.mutHoldInvoice _ _ _).answered request res
  | fund => exact h.mutHoldInvoice _ _ _
  | failInvoice => exact h.mutHoldInvoice _ _ _
  | settleInvoice => exact h.mutHoldInvoice _ _ _
  | reorderHtlcs => exact h.mutHoldInvoice _ _ _
  | answerHook request res => exact h.answered request res
  | say e => exact h.say e
  | payInvoice => exact h.say _
  | allocSwap swap => exact h.allocSwap swap fun k ref href => (hprov.swaps.table k ref href).1
  | setSwap ref => exact h.setSwap htable
  | popSwap k => exact h.popSwap k
  | assign ref f env address ha hf htracks =>
    have hstored : w.swaps.get? (hex (w.heap ref).paymentHash) = some ref := by
      rcases htracks with ⟨k, hk⟩ | ⟨address', hwatched⟩
      · exact htable k ref hk ▸ hk
      · exact (hfiled.watched address' ref hwatched).2
    exact h.assign htable hstored (hfiled.recorded _ ref hstored)
  | _ => exact h.of_db (w := w) rfl fun _ hm => ⟨hm.preimages, hm.invoices, hm.holdInvoices, hm.swaps⟩

omit [Deployment] in
theorem replays_start : Replays World.start where
  queued := ⟨_, rfl, fun _ => rfl, fun _ => rfl, fun _ => rfl, fun _ => rfl⟩
  disk hp := nomatch hp
  modified _ := rfl

end

end SubswapProvider
