import SubswapProvider.Late
import SubswapProvider.Replaying

/-!
# The record of a swap is durable before money moves

Creating a swap queues its record and does not write it. The write comes later, from functions that
store something else: `update_invoice` of the settled prepay invoice before the funding transaction,
`save_invoice` before an outgoing payment. After either the queue is empty, so the datastore has what
the tables have (`Replays`); while a payment waits the record stays in the datastore for as long as the
swap is in the table (`World.Keeps`), since later writes store documents that have it, too.

A new process finds the record if it can load the content at all. It cannot when the only write so far has
been the first one to an empty datastore, and `save_invoice` can be that one (`firstPayment_not_durable`). So
the payments have to meet a content that loads, and the callback passes one that will (`OnDocument`).
-/

namespace SubswapProvider

open Deployment Effect

/-- The record has what it takes to spend the output of the swap: the refund of a normal swap, or the
claim of a reverse one. -/
structure SwapData.Backs (record swap : SwapData) : Prop where
  isReverse : record.isReverse = swap.isReverse
  privkey : record.privkey = swap.privkey
  redeemScript : record.redeemScript = swap.redeemScript
  locktime : record.locktime = swap.locktime
  preimage : swap.isReverse = true → record.preimage = swap.preimage

/-- The plugin knows the preimage of a swap it claims. -/
def SwapData.Revealable (swap : SwapData) : Prop := swap.isReverse = true → swap.preimage.isSome = true

/-- The record of the swap that the patches in the datastore come to. -/
def World.patchedSwap? (w : World) (k : Hex) : Option SwapData := w.db.disk.bind fun d => d.swaps.get? k

/-- The datastore has the record of the swap stored under `key`, if there is one. -/
def World.Keeps (w : World) (key : Hex) : Prop :=
  ∀ swap, w.swap? key = some swap → ∃ record, w.patchedSwap? key = some record ∧ record.Backs swap

theorem World.storedSwap?_of_headed {w : World} (h : w.db.headless = false) (k : Hex) :
    w.storedSwap? k = w.patchedSwap? k := by
  unfold World.storedSwap? World.patchedSwap? Db.load
  rw [h, if_neg Bool.false_ne_true]

/-- Where a payment is made, the content of the datastore does not start with a patch; where a callback pass
finds a swap to fund, it is not empty, or the documents are written as a whole. -/
def OnDocument (w : World) : Action → Prop
  | .payTask _ n _ =>
    (∃ key, w.payTasks[n]? = some (.spawned key) ∧ w.invoices.contains key = true) →
      w.db.headless = false
  | .callbacks env => (∃ k swap, ReadyToFund w k swap) → w.Headed env
  | _ => True

section

variable [Deployment]

/-- The tables of a store fit together: every record was stored by the plugin, an invoice is one for a
swap of the run, and while it is there its reverse swap is, too. -/
structure Coherent (actions : List Action) (d : Doc) : Prop where
  recorded : ∀ k swap, d.swaps.get? k = some swap → swap.db = true
  invoiced : ∀ k, d.invoices.contains k = true → ∃ h, Used actions h ∧ k = hex h
  unpaid : ∀ h, Reversed actions h → d.invoices.contains (hex h) = true →
    d.swaps.contains (hex h) = true

/-- What the datastore has when money moves. -/
def Event.Backed (actions : List Action) : Event → Prop
  | .sendpsbt swap stored _ => ∃ record, stored = some record ∧ record.Backs swap
  | .payInvoice key swap stored => (∃ h, Used actions h ∧ key = hex h) ∧
      ∀ h, Reversed actions h → key = hex h → ∃ s record, swap = some s ∧ s.isReverse = true ∧
        s.preimage.isSome = true ∧ stored = some record ∧ record.Backs s
  | _ => True

/-- An event that moves no money. -/
def Event.Idle : Event → Prop
  | .sendpsbt _ _ _ | .payInvoice _ _ _ => False
  | _ => True

variable {actions past : List Action} {a : Action} {w₀ w w' : World} {key : Hex}

omit [Deployment] in
theorem SwapData.Backs.refl (swap : SwapData) : swap.Backs swap := ⟨rfl, rfl, rfl, rfl, fun _ => rfl⟩

omit [Deployment] in
/-- An assignment takes no preimage away. -/
theorem Assignment.revealable {now swap : SwapData} {f : SwapData → SwapData} (hf : Assignment now f)
    (hswap : swap.Revealable) : (f swap).Revealable := by
  cases hf with
  | preimage x => exact fun _ => rfl
  | _ => exact hswap

omit [Deployment] in
theorem SwapData.Backs.assign {record swap : SwapData} {f : SwapData → SwapData}
    (hf : Assignment swap f) (hsecret : swap.Revealable) (h : record.Backs swap) :
    record.Backs (f swap) := by
  cases hf with
  | fundingTxid => exact ⟨h.isReverse, h.privkey, h.redeemScript, h.locktime, h.preimage⟩
  | spendingTxid => exact ⟨h.isReverse, h.privkey, h.redeemScript, h.locktime, h.preimage⟩
  | isRedeemed => exact ⟨h.isReverse, h.privkey, h.redeemScript, h.locktime, h.preimage⟩
  | preimage x hnone =>
    refine ⟨h.isReverse, h.privkey, h.redeemScript, h.locktime, fun hr => ?_⟩
    have hsome := hsecret hr
    rw [hnone] at hsome
    cases hsome

theorem Event.Idle.backed {e : Event} (he : e.Idle) : e.Backed actions := by
  cases e with
  | sendpsbt => exact he.elim
  | payInvoice => exact he.elim
  | _ => trivial

/-! ## Stores -/

theorem Coherent.congr {d d' : Doc} (hinvoices : ∀ k, d'.invoices.get? k = d.invoices.get? k)
    (hswaps : ∀ k, d'.swaps.get? k = d.swaps.get? k) (h : Coherent actions d) : Coherent actions d' := by
  have hcontains : ∀ k, d'.invoices.contains k = d.invoices.contains k := by
    intro k
    unfold Dict.contains
    rw [hinvoices]
  refine ⟨fun k swap hswap => ?_, fun k hk => ?_, fun h' hr hk => ?_⟩
  · rw [hswaps] at hswap
    exact h.recorded k swap hswap
  · rw [hcontains] at hk
    exact h.invoiced k hk
  · rw [hcontains] at hk
    have hswap := h.unpaid h' hr hk
    unfold Dict.contains at hswap ⊢
    rw [hswaps]
    exact hswap

theorem Coherent.of_doc {d : Doc} (hm : w.Mirrors d) (h : Coherent actions w.doc) : Coherent actions d := by
  have hdoc := World.Mirrors.doc w
  exact h.congr (fun k => (hm.invoices k).trans (hdoc.invoices k).symm)
    fun k => (hm.swaps k).trans (hdoc.swaps k).symm

theorem Coherent.doc {d : Doc} (hm : w.Mirrors d) (h : Coherent actions d) : Coherent actions w.doc := by
  have hdoc := World.Mirrors.doc w
  exact h.congr (fun k => (hdoc.invoices k).trans (hm.invoices k).symm)
    fun k => (hdoc.swaps k).trans (hm.swaps k).symm

/-- The next step brings in hashes for which there is no invoice yet. -/
theorem Coherent.append {d : Doc} (hd : DistinctHashes (past ++ [a])) (h : Coherent past d) :
    Coherent (past ++ [a]) d := by
  refine ⟨h.recorded, fun k hk => ?_, fun h' hr hk => ?_⟩
  · obtain ⟨h', hused, heq⟩ := h.invoiced k hk
    exact ⟨h', hused.append, heq⟩
  · obtain ⟨b, hb, hrev⟩ := hr
    rcases List.mem_append.mp hb with hb | hb
    · exact h.unpaid h' ⟨b, hb, hrev⟩ hk
    · cases List.mem_singleton.mp hb
      obtain ⟨h'', hused, heq⟩ := h.invoiced _ hk
      exact absurd (hex_inj.mp heq ▸ hused) (hd.fresh (Action.reverse_mem hrev))

theorem Event.Backed.append {e : Event} (hd : DistinctHashes (past ++ [a])) (he : e.Backed past) :
    e.Backed (past ++ [a]) := by
  cases e with
  | sendpsbt => exact he
  | payInvoice key swap stored =>
    obtain ⟨⟨h, hused, hkey⟩, hback⟩ := he
    refine ⟨⟨h, hused.append, hkey⟩, fun h' hr hk => ?_⟩
    obtain ⟨b, hb, hrev⟩ := hr
    rcases List.mem_append.mp hb with hb | hb
    · exact hback h' ⟨b, hb, hrev⟩ hk
    · cases List.mem_singleton.mp hb
      rw [hkey] at hk
      exact absurd (hex_inj.mp hk ▸ hused) (hd.fresh (Action.reverse_mem hrev))
  | _ => trivial

omit [Deployment] in
/-- With nothing pending the datastore has what the tables have. -/
theorem Replays.patched (h : Replays w) (hclean : w.db.Clean) (k : Hex) :
    w.patchedSwap? k = w.swap? k := by
  have hpending : w.db.pending = false := by
    rcases hclean with hclean | hclean
    · exact hclean
    · cases hp : w.db.pending with
      | false => rfl
      | true =>
        rw [h.modified hp] at hclean
        cases hclean
  obtain ⟨d, hd, hm⟩ := h.queued
  unfold World.patchedSwap?
  rw [h.disk hpending, hd]
  exact hm.swaps k

omit [Deployment] in
theorem Replays.keeps (h : Replays w) (hclean : w.db.Clean) (k : Hex) : w.Keeps k :=
  fun swap hswap => ⟨swap, (h.patched hclean k).trans hswap, .refl swap⟩

/-! ## The moves -/

/-- A move that stores an invoice has a swap for it. -/
theorem Move.invoices (h : Move a w₀ w w') (hkey : w'.invoices.contains key = true) :
    w.invoices.contains key = true ∨ (w.swaps.contains key = true ∧ w'.swaps = w.swaps) := by
  cases h with
  | setInvoice k v hk =>
    unfold World.setInvoice at hkey ⊢
    split at hkey
    · exact .inl hkey
    · next hnew =>
      rw [if_neg hnew]
      rcases Dict.contains_set hkey with rfl | hold
      · exact .inr ⟨hk, rfl⟩
      · exact .inl hold
  | popInvoice k =>
    unfold World.popInvoice at hkey
    split at hkey
    · exact .inl (Dict.contains_of_pop hkey)
    · exact .inl hkey
  | setPreimage k v => unfold World.setPreimage at hkey; split at hkey <;> exact .inl hkey
  | popPreimage k _ => unfold World.popPreimage at hkey; split at hkey <;> exact .inl hkey
  | createHold invoice =>
    dsimp only [World.setHoldInvoice] at hkey
    split at hkey <;> exact .inl hkey
  | popHold k => unfold World.popHoldInvoice at hkey; split at hkey <;> exact .inl hkey
  | updateHold k invoice =>
    dsimp only [World.replaceHold, World.setHoldInvoice, World.popHoldInvoice] at hkey
    split at hkey <;> split at hkey <;> exact .inl hkey
  | bundle k invoice p =>
    dsimp only [World.replaceHold, World.setHoldInvoice, World.popHoldInvoice] at hkey
    split at hkey <;> split at hkey <;> exact .inl hkey
  | resolveHtlc => unfold World.answered at hkey; split at hkey <;> exact .inl hkey
  | answerHook => unfold World.answered at hkey; split at hkey <;> exact .inl hkey
  | popSwap k => unfold World.popSwap at hkey; split at hkey <;> exact .inl hkey
  | assign ref f => dsimp only [World.assign] at hkey; split at hkey <;> exact .inl hkey
  | _ => exact .inl hkey

/-- A payment that is under way was under way before, or has been queued in this move. -/
theorem Move.paying (h : Move a w₀ w w') (hpaying : w'.Paying key) :
    w.Paying key ∨ w₀.Paying key ∨ ∃ (toPay : Dict Hex Nat) (t : Nat),
      w' = { w with invoicesToPay := some (toPay.set key t) } ∧ a.hashes = [] ∧ ((w.db.Clean ∧ (w.swaps.get? key).isSome = true) ∨ ∃ ref, w.Tracks ref ∧
        (w.heap ref).isReverse = true ∧ (w.heap ref).preimage = none) := by
  cases h with
  | setPreimage k v => unfold World.setPreimage at hpaying; split at hpaying <;> exact .inl hpaying
  | popPreimage k _ => unfold World.popPreimage at hpaying; split at hpaying <;> exact .inl hpaying
  | setInvoice k v => unfold World.setInvoice at hpaying; split at hpaying <;> exact .inl hpaying
  | popInvoice k => unfold World.popInvoice at hpaying; split at hpaying <;> exact .inl hpaying
  | createHold invoice =>
    dsimp only [World.setHoldInvoice] at hpaying
    split at hpaying <;> exact .inl hpaying
  | popHold k => unfold World.popHoldInvoice at hpaying; split at hpaying <;> exact .inl hpaying
  | updateHold k invoice =>
    dsimp only [World.replaceHold, World.setHoldInvoice, World.popHoldInvoice] at hpaying
    split at hpaying <;> split at hpaying <;> exact .inl hpaying
  | bundle k invoice p =>
    dsimp only [World.replaceHold, World.setHoldInvoice, World.popHoldInvoice] at hpaying
    split at hpaying <;> split at hpaying <;> exact .inl hpaying
  | resolveHtlc => unfold World.answered at hpaying; split at hpaying <;> exact .inl hpaying
  | answerHook => unfold World.answered at hpaying; split at hpaying <;> exact .inl hpaying
  | popSwap k => unfold World.popSwap at hpaying; split at hpaying <;> exact .inl hpaying
  | assign ref f => dsimp only [World.assign] at hpaying; split at hpaying <;> exact .inl hpaying
  | startPaying =>
    rcases hpaying with ⟨toPay, htoPay, hkey⟩ | htask
    · cases htoPay
      cases hkey
    · exact .inl (.inr htask)
  | setToPay key' toPay t htoPay hhashes hqueued =>
    by_cases hk : key = key'
    · subst hk
      rcases hqueued with hold | hnew
      · exact .inr (.inl hold)
      · exact .inr (.inr ⟨toPay, t, rfl, hhashes, hnew⟩)
    · rcases hpaying with ⟨toPay', htoPay', hkey⟩ | htask
      · cases htoPay'
        rcases Dict.contains_set hkey with heq | hold
        · exact absurd heq hk
        · exact .inl (.inl ⟨toPay, htoPay, hold⟩)
      · exact .inl (.inr htask)
  | popToPay key' toPay htoPay =>
    rcases hpaying with ⟨toPay', htoPay', hkey⟩ | htask
    · cases htoPay'
      exact .inl (.inl ⟨toPay, htoPay, Dict.contains_of_pop hkey⟩)
    · exact .inl (.inr htask)
  | setTasks tasks htasks =>
    have htask : ∀ task ∈ tasks, (task = .spawned key ∨ ∃ invoice, task = .paying key invoice) →
        w.Paying key ∨ w₀.Paying key := by
      intro task hmem hkind
      rcases htasks task hmem with hold | ⟨key', hpaying', hkind'⟩
      · rcases hkind with rfl | ⟨invoice, rfl⟩
        · exact .inl (.inr (.inl hold))
        · exact .inl (.inr (.inr ⟨invoice, hold⟩))
      · have hkey : key = key' := by
          rcases hkind with rfl | ⟨invoice, rfl⟩ <;> rcases hkind' with heq | ⟨invoice', heq⟩ <;>
            cases heq <;> rfl
        exact .inr (hkey ▸ hpaying')
    rcases hpaying with hqueue | hspawned | ⟨invoice, hwaiting⟩
    · exact .inl (.inl hqueue)
    · rcases htask _ hspawned (.inl rfl) with hold | hold
      · exact .inl hold
      · exact .inr (.inl hold)
    · rcases htask _ hwaiting (.inr ⟨invoice, rfl⟩) with hold | hold
      · exact .inl hold
      · exact .inr (.inl hold)
  | _ => exact .inl hpaying

omit [Deployment] in
theorem Event.Plain.idle {e : Event} (he : e.Plain) : e.Idle := by
  cases e with
  | sendpsbt => exact he
  | payInvoice => exact he
  | _ => trivial

/-- The one event of a move that moves money. -/
theorem Move.logs (h : Move a w₀ w w') : w'.trace = w.trace ∨
    (∃ e : Event, e.Idle ∧ w'.trace = e :: w.trace) ∨
    ∃ key, (∃ env n result, a = .payTask env n result ∧ w₀.payTasks[n]? = some (.spawned key)) ∧
      (w.db = w₀.db ∧ w.invoices = w₀.invoices) ∧ w₀.Paying key ∧ w.invoices.contains key = true ∧
      w' = w.say (.payInvoice key (w.swap? key) (w.storedSwap? key)) := by
  cases h with
  | setPreimage k v => exact .inl (Recorded.setPreimage w k v).trace
  | popPreimage k _ => exact .inl (Recorded.popPreimage w k).trace
  | setInvoice k v => exact .inl (Recorded.setInvoice w k v).trace
  | popInvoice k => exact .inl (Recorded.popInvoice w k).trace
  | createHold invoice => exact .inl (Recorded.setHoldInvoice w invoice).trace
  | updateHold k invoice => exact .inl (Recorded.replaceHold w k invoice).trace
  | bundle k invoice p => exact .inl (Recorded.replaceHold w k _).trace
  | popHold k => exact .inl (Recorded.popHoldInvoice w k).trace
  | popSwap k => exact .inl (Recorded.popSwap w k).trace
  | assign ref f => exact .inl (Recorded.assign w ref f).trace
  | resolveHtlc k invoice htlc request st res =>
    refine .inr (.inl ?_)
    unfold World.answered
    split
    · exact ⟨.refused request res, trivial, rfl⟩
    · exact ⟨.answer request res, trivial, rfl⟩
  | answerHook request res =>
    refine .inr (.inl ?_)
    unfold World.answered
    split
    · exact ⟨.refused request res, trivial, rfl⟩
    · exact ⟨.answer request res, trivial, rfl⟩
  | say e he => exact .inr (.inl ⟨e, he.idle, rfl⟩)
  | payInvoice key ha hsame hpaying hinvoice =>
    exact .inr (.inr ⟨key, ha, hsame, hpaying, hinvoice, rfl⟩)
  | _ => exact .inl rfl

/-- Nothing empties the content of the datastore. -/
theorem Move.headed (env : Env) (h : Move a w₀ w w') (hheaded : w.Headed env) : w'.Headed env := by
  intro hblank
  cases h.told with
  | recorded hrec => exact hheaded (hrec.blank ▸ hblank)
  | consolidated => cases hblank
  | appended => cases hblank
  | said hrec e => exact hheaded (hrec.blank ▸ hblank)

theorem headed_path (env : Env) (h : Relation.ReflTransGen (Move a w₀) w w') (hheaded : w.Headed env) :
    w'.Headed env := by
  induction h with
  | refl => exact hheaded
  | tail _ hmove ih => exact hmove.headed env ih

/-- A move writes the store in two ways only. -/
theorem Move.disk (h : Move a w₀ w w') :
    w'.db.disk = w.db.disk ∨ w' = w.consolidate ∨ w' = w.append := by
  cases h.told with
  | recorded hrec => exact .inl hrec.disk
  | consolidated => exact .inr (.inl rfl)
  | appended => exact .inr (.inr rfl)
  | said hrec e => exact .inl hrec.disk

omit [Deployment] in
theorem World.patchedSwap?_congr (hdisk : w'.db.disk = w.db.disk) (k : Hex) :
    w'.patchedSwap? k = w.patchedSwap? k := by
  unfold World.patchedSwap?
  rw [hdisk]

omit [Deployment] in
/-- The record stays, and so does the swap. -/
theorem World.Keeps.congr (hdisk : w'.db.disk = w.db.disk) (hswap : w'.swap? key = w.swap? key)
    (h : w.Keeps key) : w'.Keeps key := by
  intro swap hs
  rw [hswap] at hs
  obtain ⟨record, hrecord, hbacks⟩ := h swap hs
  exact ⟨record, (World.patchedSwap?_congr hdisk key).trans hrecord, hbacks⟩

omit [Deployment] in
/-- Another swap object is changed, or the change leaves the record good. -/
theorem World.Keeps.update {ref : SwapRef} {f : SwapData → SwapData}
    (hdisk : w'.db.disk = w.db.disk) (hswaps : w'.swaps = w.swaps)
    (hheap : w'.heap = Function.update w.heap ref (f (w.heap ref)))
    (hf : ∀ record : SwapData, record.Backs (w.heap ref) → record.Backs (f (w.heap ref)))
    (h : w.Keeps key) : w'.Keeps key := by
  intro swap hs
  unfold World.swap? at hs
  rw [hswaps, hheap] at hs
  obtain ⟨ref', href, rfl⟩ := Option.map_eq_some_iff.mp hs
  obtain ⟨record, hrecord, hbacks⟩ := h (w.heap ref') (Option.map_eq_some_iff.mpr ⟨ref', href, rfl⟩)
  refine ⟨record, (World.patchedSwap?_congr hdisk key).trans hrecord, ?_⟩
  by_cases hr : ref' = ref
  · subst hr
    rw [Function.update_self]
    exact hf record hbacks
  · rw [Function.update_of_ne hr]
    exact hbacks

omit [Deployment] in
theorem World.Keeps.assign_fundingTxid (ref : SwapRef) (t : Option Txid) (h : w.Keeps key) :
    (w.assign ref fun swap => { swap with fundingTxid := t }).Keeps key :=
  h.update (f := fun swap => { swap with fundingTxid := t }) (Recorded.assign w ref _).disk
    (World.assign_swaps ref _ w) (World.assign_heap ref _ w) fun _ hbacks =>
      ⟨hbacks.isReverse, hbacks.privkey, hbacks.redeemScript, hbacks.locktime, hbacks.preimage⟩

/-! ## The invariant -/

/-- The state of a run, `past` being the actions whose swaps can be paid for. -/
structure Durable (past actions : List Action) (w : World) : Prop where
  filed : Filed w
  replays : Replays w
  secrets : SwapsThroughout SwapData.Revealable w
  doc : Coherent actions w.doc
  disk : ∀ d, w.db.disk = some d → Coherent actions d
  views : ∀ v ∈ w.views, ∀ d, v.db.disk = some d → Coherent actions d
  paying : ∀ key, w.Paying key → (∃ h, Used past h ∧ key = hex h) ∧ w.Keeps key
  log : ∀ e ∈ w.trace, e.Backed actions
  said : ∀ v ∈ w.views, ∀ e ∈ v.said, e.Backed actions

/-- What a step that started in `w₀` has left untouched so far. -/
structure InStep (past : List Action) (w₀ w : World) : Prop extends Since w₀ w where
  paying : ∀ key, w₀.Paying key → (∃ h, Used past h ∧ key = hex h) ∧ w.Keeps key

theorem Durable.append (hd : DistinctHashes (past ++ [a])) (h : Durable past past w) :
    Durable past (past ++ [a]) w where
  filed := h.filed
  replays := h.replays
  secrets := h.secrets
  doc := h.doc.append hd
  disk d hdisk := (h.disk d hdisk).append hd
  views v hv d hdisk := (h.views v hv d hdisk).append hd
  paying := h.paying
  log e he := (h.log e he).append hd
  said v hv e he := (h.said v hv e he).append hd

theorem Durable.restart (env : Env) {view : View} (hview : view = ⟨w.db, w.trace⟩ ∨ view ∈ w.views)
    (hprov : Provenance actions w) (h : Durable past actions w) :
    Durable past actions (w.restart env view) := by
  have hsound : ∀ d, view.db.disk = some d → Coherent actions d := by
    intro d hd
    rcases hview with rfl | hview
    · exact h.disk d hd
    · exact h.views view hview d hd
  have hkeys : ∀ d, view.db.disk = some d → ∀ k swap, d.swaps.get? k = some swap →
      k = hex swap.paymentHash := by
    intro d hd k swap hswap
    rcases hview with rfl | hview
    · exact (hprov.swaps.stored d (.inl hd) k swap hswap).key
    · exact (hprov.swaps.views view hview d hd k swap hswap).key
  have hsaid : ∀ e ∈ view.said, e.Backed actions := by
    rcases hview with rfl | hview
    · exact h.log
    · exact h.said view hview
  have hreplays : Replays (w.restart env view) :=
    h.replays.restart env fun d hd k swap hswap =>
      ⟨hkeys d hd k swap hswap, (hsound d hd).recorded k swap hswap⟩
  cases hload : view.db.load with
  | none =>
    have hsame : w.restart env view = w := by
      unfold World.restart
      rw [hload]
    rw [hsame]
    exact h
  | some d =>
    have hdisk : ∀ d', (w.restart env view).Stores d' → Coherent actions d' :=
      fun d' hd' => hsound d' (hd'.of_restart hload)
    refine ⟨h.filed.restart env view, hreplays, h.secrets.restart env hview fun _ hswap => hswap, ?_,
      fun d' hd' => hdisk d' (.inl hd'), fun v hv d' hd' => ?_, fun key hpaying => ?_, fun e he => ?_,
      fun v hv e he => ?_⟩
    · obtain ⟨d', hd', hm⟩ := hreplays.queued
      exact (hdisk d' (.inr hd')).doc hm
    · unfold World.restart at hv
      rw [hload] at hv
      cases List.mem_singleton.mp hv
      exact hsound d' hd'
    · unfold World.restart at hpaying
      rw [hload] at hpaying
      rcases hpaying with ⟨toPay, htoPay, -⟩ | htask | ⟨invoice, htask⟩
      · cases htoPay
      · cases htask
      · cases htask
    · unfold World.restart at he
      rw [hload] at he
      exact hsaid e he
    · unfold World.restart at hv
      rw [hload] at hv
      cases List.mem_singleton.mp hv
      exact hsaid e he

/-! ## A move keeps it -/

section

variable (hd : DistinctHashes (past ++ [a])) (hw₀ : Filed w₀) (hprov₀ : Provenance past w₀)
  (hprov : Provenance (past ++ [a]) w) (hok : OnDocument w₀ a) (hmove : Move a w₀ w w')
  (hs : InStep past w₀ w)
  (h : Durable past (past ++ [a]) w)

include hd hprov hmove h in
/-- Whatever happens to a swap of an earlier step, its record stays good. -/
theorem Durable.keeps {h' : Bytes} (hused : Used past h') (hkey : key = hex h') (hkeeps : w.Keeps key) :
    w'.Keeps key := by
  rcases hmove.disk with hdisk | rfl | rfl
  · cases hmove.swapChange with
    | none htables =>
      refine hkeeps.congr hdisk ?_
      unfold World.swap?
      rw [htables.swaps, htables.heap]
    | alloc swap =>
      refine hkeeps.congr hdisk ?_
      show (w.swaps.get? key).map (Function.update w.heap w.nextRef swap) = (w.swaps.get? key).map w.heap
      cases href : w.swaps.get? key with
      | none => rfl
      | some ref =>
        have hne := Nat.ne_of_lt (hprov.swaps.table key ref href).1
        rw [Option.map_some, Option.map_some, Function.update_of_ne hne]
    | store ref hnone htracks =>
      have hne : key ≠ hex (w.heap ref).paymentHash := by
        intro hk
        rcases htracks with ⟨-, hnew, -⟩ | ⟨⟨k, hstored⟩ | ⟨address, hwatched⟩, -⟩
        · rw [hkey] at hk
          exact hd.fresh hnew.hash (hex_inj.mp hk ▸ hused)
        · rw [← (hprov.swaps.table k ref hstored).2, Dict.contains, hstored] at hnone
          cases hnone
        · rw [Dict.contains, (h.filed.watched address ref hwatched).2] at hnone
          cases hnone
      refine hkeeps.congr hdisk ?_
      show ((w.swaps.set (hex (w.heap ref).paymentHash) ref).get? key).map
        (Function.update w.heap ref { w.heap ref with db := true }) = (w.swaps.get? key).map w.heap
      rw [Dict.get?_set_ne _ _ hne]
      cases href : w.swaps.get? key with
      | none => rfl
      | some ref' =>
        have hother : ref' ≠ ref := fun heq => hne (heq ▸ (hprov.swaps.table key ref' href).2)
        rw [Option.map_some, Option.map_some, Function.update_of_ne hother]
    | pop k =>
      have hkept := (Quiet.popSwap k w).toSwapsKept
      intro swap hswap
      obtain ⟨ref, href, rfl⟩ := Option.map_eq_some_iff.mp hswap
      rw [hkept.heap]
      obtain ⟨record, hrecord, hbacks⟩ := hkeeps (w.heap ref)
        (Option.map_eq_some_iff.mpr ⟨ref, hkept.swaps key ref href, rfl⟩)
      exact ⟨record, (World.patchedSwap?_congr hdisk key).trans hrecord, hbacks⟩
    | assign ref f env address ha hf htracks =>
      exact hkeeps.update hdisk (World.assign_swaps ref f w) (World.assign_heap ref f w)
        fun record hbacks => hbacks.assign hf (h.secrets.live ref (h.secrets.tracks htracks))
    | watch ref => exact hkeeps.congr hdisk rfl
    | unwatch address => exact hkeeps.congr hdisk rfl
  · intro swap hswap
    exact ⟨swap, (Dict.get?_mapVals w.heap w.swaps key).trans hswap, .refl swap⟩
  · intro swap hswap
    obtain ⟨d, hqueued, hm⟩ := h.replays.queued
    refine ⟨swap, ?_, .refl swap⟩
    show w.db.queued.bind (fun d => d.swaps.get? key) = some swap
    rw [hqueued]
    exact (hm.swaps key).trans hswap

include h in
theorem Durable.unpaid {h' : Bytes} (hr : Reversed (past ++ [a]) h')
    (hinvoice : w.invoices.contains (hex h') = true) : w.swaps.contains (hex h') = true := by
  have hswap := h.doc.unpaid h' hr hinvoice
  rw [← Dict.contains_mapVals w.heap]
  exact hswap

include hd hprov₀ hprov hmove hs h in
/-- A reverse swap is not forgotten while its invoice is there. -/
theorem Durable.unpaid_move {h' : Bytes} (hr : Reversed (past ++ [a]) h')
    (hinvoice : w'.invoices.contains (hex h') = true) : w'.swaps.contains (hex h') = true := by
  rcases hmove.invoices hinvoice with hold | ⟨hswap, hsame⟩
  · have hswap := h.unpaid hr hold
    cases hmove.swapChange with
    | none htables => rw [htables.swaps]; exact hswap
    | alloc swap => exact hswap
    | store ref =>
      show (w.swaps.set (hex (w.heap ref).paymentHash) ref).contains (hex h') = true
      obtain ⟨ref', href⟩ := Dict.contains_iff.mp hswap
      rw [Dict.contains, Dict.get?_set]
      split
      · rfl
      · rw [href]
        rfl
    | pop k hforget =>
      by_cases hk : hex h' = k
      · subst hk
        obtain ⟨ref, href⟩ := Dict.contains_iff.mp hswap
        have hreverse : ∀ ref, ref < w.nextRef → hex h' = hex (w.heap ref).paymentHash →
            (w.heap ref).isReverse = true := by
          intro ref hlt hkey
          by_contra hn
          obtain ⟨p, hpair, -⟩ := (hprov.swaps.live ref hlt).normal (by simpa using hn)
          exact hd.main_ne_reverse hpair (hex_inj.mp hkey ▸ hr)
        cases hforget with
        | ended ref' hkey hhad hunwatched hunpaid =>
          rw [hunpaid (hreverse ref' (hs.had hprov₀ hprov hhad) hkey)] at hold
          cases hold
        | orphaned hstage hnormal =>
          obtain ⟨hlt, hkey⟩ := hprov.swaps.table _ ref href
          have hn := hnormal ref href
          rw [hreverse ref hlt hkey] at hn
          cases hn
      · unfold World.popSwap
        split
        · rw [Dict.contains, Dict.get?_pop_ne _ hk]
          exact hswap
        · exact hswap
    | assign ref f => rw [World.assign_swaps]; exact hswap
    | watch ref => exact hswap
    | unwatch address => exact hswap
  · rw [hsame]
    exact hswap

include hd hprov₀ hprov hmove hs h in
theorem Durable.doc_move (hfiled : Filed w') : Coherent (past ++ [a]) w'.doc where
  recorded k swap hswap := by
    have hget : (w'.swaps.get? k).map w'.heap = some swap :=
      (Dict.get?_mapVals w'.heap w'.swaps k).symm.trans hswap
    obtain ⟨ref, href, rfl⟩ := Option.map_eq_some_iff.mp hget
    exact hfiled.recorded k ref href
  invoiced k hk := by
    rcases hmove.invoices hk with hold | ⟨hswap, -⟩
    · exact h.doc.invoiced k hold
    · obtain ⟨ref, href⟩ := Dict.contains_iff.mp hswap
      obtain ⟨hlt, hkey⟩ := hprov.swaps.table k ref href
      exact ⟨_, (hprov.swaps.live ref hlt).used, hkey⟩
  unpaid h' hr hinvoice := by
    have hswap := h.unpaid_move hd hprov₀ hprov hmove hs hr hinvoice
    show (w'.swaps.mapVals w'.heap).contains (hex h') = true
    rw [Dict.contains_mapVals]
    exact hswap

include hmove h in
theorem Durable.disk_move : ∀ d, w'.db.disk = some d → Coherent (past ++ [a]) d := by
  intro d hdisk
  rcases hmove.disk with hsame | rfl | rfl
  · exact h.disk d (hsame ▸ hdisk)
  · cases hdisk
    exact h.doc
  · obtain ⟨d', hqueued, hm⟩ := h.replays.queued
    have heq : d' = d := Option.some_inj.mp (hqueued.symm.trans hdisk)
    exact heq ▸ h.doc.of_doc hm

include hd hprov hmove hs h in
/-- A payment is queued with its swap in the datastore. -/
theorem Durable.paying_move (hpaying : w'.Paying key) :
    (∃ h, Used past h ∧ key = hex h) ∧ w'.Keeps key := by
  have hkept : ((∃ h, Used past h ∧ key = hex h) ∧ w.Keeps key) →
      (∃ h, Used past h ∧ key = hex h) ∧ w'.Keeps key := by
    rintro ⟨⟨h', hused, hkey⟩, hkeeps⟩
    exact ⟨⟨h', hused, hkey⟩, h.keeps hd hprov hmove hused hkey hkeeps⟩
  rcases hmove.paying hpaying with hold | hold | ⟨toPay, t, rfl, hhashes, hqueued⟩
  · exact hkept (h.paying key hold)
  · exact hkept (hs.paying key hold)
  · rcases hqueued with ⟨hclean, hswap⟩ | ⟨ref, htracks, hreverse, hnone⟩
    · refine hkept ⟨?_, h.replays.keeps hclean key⟩
      obtain ⟨ref, href⟩ := Option.isSome_iff_exists.mp hswap
      obtain ⟨hlt, hkey⟩ := hprov.swaps.table key ref href
      refine ⟨_, ?_, hkey⟩
      obtain ⟨b, hb, hmem⟩ := (hprov.swaps.live ref hlt).used
      rcases List.mem_append.mp hb with hb | hb
      · exact ⟨b, hb, hmem⟩
      · cases List.mem_singleton.mp hb
        rw [hhashes] at hmem
        cases hmem
    · -- the plugin knows the preimage of every reverse swap
      have hsecret := h.secrets.live ref (h.secrets.tracks htracks) hreverse
      rw [hnone] at hsecret
      cases hsecret

include hd hprov hok hmove hs h in
theorem Durable.log_move : ∀ e ∈ w'.trace, e.Backed (past ++ [a]) := by
  intro e he
  rcases hmove.logs with hsame | ⟨e', hidle, htrace⟩ | ⟨key, ha, hsame, hpaying, hinvoice, rfl⟩
  · exact h.log e (hsame ▸ he)
  · rw [htrace] at he
    rcases List.mem_cons.mp he with rfl | he
    · exact hidle.backed
    · exact h.log e he
  · rcases List.mem_cons.mp he with rfl | he
    · obtain ⟨⟨h', hused, hkey⟩, hkeeps⟩ := hs.paying key hpaying
      refine ⟨⟨h', hused.append, hkey⟩, fun h'' hr hk => ?_⟩
      subst hk
      obtain ⟨ref, href⟩ := Dict.contains_iff.mp (h.unpaid hr hinvoice)
      have hswap : w.swap? (hex h'') = some (w.heap ref) := Option.map_eq_some_iff.mpr ⟨ref, href, rfl⟩
      obtain ⟨record, hrecord, hbacks⟩ := hkeeps _ hswap
      obtain ⟨hlt, hkey⟩ := hprov.swaps.table _ ref href
      have hreverse : (w.heap ref).isReverse = true := by
        by_contra hn
        obtain ⟨p, hpair, -⟩ := (hprov.swaps.live ref hlt).normal (by simpa using hn)
        exact hd.main_ne_reverse hpair (hex_inj.mp hkey ▸ hr)
      have hheadless : w.db.headless = false := by
        obtain ⟨env, n, result, rfl, htask⟩ := ha
        rw [hsame.1]
        exact hok ⟨_, htask, hsame.2 ▸ hinvoice⟩
      exact ⟨w.heap ref, record, hswap, hreverse, h.secrets.live ref hlt hreverse,
        (World.storedSwap?_of_headed hheadless _).trans hrecord, hbacks⟩
    · exact h.log e he

include hd hw₀ hprov₀ hprov hok hmove hs h in
theorem Durable.move : Durable past (past ++ [a]) w' := by
  have hfiled := hw₀.move hd hprov₀ hprov hmove hs.toSince h.filed
  have hlog := h.log_move hd hprov hok hmove hs
  have hdisk := h.disk_move hmove
  refine ⟨hfiled, h.replays.move hprov h.filed hmove, ?_, h.doc_move hd hprov₀ hprov hmove hs hfiled,
    hdisk, fun v hv d hd => ?_, fun key hpaying => h.paying_move hd hprov hmove hs hpaying, hlog,
    fun v hv e he => ?_⟩
  · exact h.secrets.move hmove (fun swap hnew hr => (hnew.reverse hr).2) (fun _ hswap => hswap)
      fun _ _ _ now f hf swap hswap => hf.revealable hswap
  · rcases hmove.told.newView hv with hv | ⟨hsame, -⟩
    · exact h.views v hv d hd
    · exact hdisk d (hsame ▸ hd)
  · rcases hmove.told.newView hv with hv | ⟨-, hsaid⟩
    · exact h.said v hv e he
    · exact hlog e (hsaid ▸ he)

include hd hw₀ hprov hmove hs h in
theorem InStep.move : InStep past w₀ w' where
  toSince := hs.toSince.move hw₀ hmove
  paying key hpaying := by
    obtain ⟨⟨h', hused, hkey⟩, hkeeps⟩ := hs.paying key hpaying
    exact ⟨⟨h', hused, hkey⟩, h.keeps hd hprov hmove hused hkey hkeeps⟩

end

/-! ## The funding transaction -/

theorem Durable.say {e : Event} (he : e.Backed actions) (h : Durable past actions w) :
    Durable past actions (w.say e) where
  filed := h.filed.say e
  replays := h.replays.say e
  secrets := h.secrets.say e
  doc := h.doc
  disk := h.disk
  views v hv d hdisk := by
    rcases List.mem_cons.mp hv with rfl | hv
    · exact h.disk d hdisk
    · exact h.views v hv d hdisk
  paying := h.paying
  log e' he' := by
    rcases List.mem_cons.mp he' with rfl | he'
    · exact he
    · exact h.log e' he'
  said v hv e' he' := by
    rcases List.mem_cons.mp hv with rfl | hv
    · rcases List.mem_cons.mp he' with rfl | he'
      · exact he
      · exact h.log e' he'
    · exact h.said v hv e' he'

theorem Durable.assign_fundingTxid {ref : SwapRef} (t : Option Txid)
    (hprov : Provenance actions w) (hstored : w.swaps.get? (hex (w.heap ref).paymentHash) = some ref)
    (h : Durable past actions w) :
    Durable past actions (w.assign ref fun swap => { swap with fundingTxid := t }) := by
  have hrec := Recorded.assign w ref fun swap => { swap with fundingTxid := t }
  have hfiled := h.filed.assign ref (unlabelling_fundingTxid t)
  have hreplays := h.replays.assign (f := fun swap => { swap with fundingTxid := t })
    (fun k ref' href => (hprov.swaps.table k ref' href).2) hstored (h.filed.recorded _ ref hstored)
  refine ⟨hfiled, hreplays, h.secrets.assign ref _ (fun _ => rfl) fun _ hswap => hswap, ?_, ?_, ?_,
    fun key hpaying => ?_, ?_, ?_⟩
  · have hinvoices := World.assign_invoices ref (fun swap => { swap with fundingTxid := t }) w
    refine ⟨fun k swap hswap => ?_, fun k hk => ?_, fun h' hr hk => ?_⟩
    · have hget := (Dict.get?_mapVals _ _ k).symm.trans hswap
      obtain ⟨ref', href, rfl⟩ := Option.map_eq_some_iff.mp hget
      exact hfiled.recorded k ref' href
    · have hold : w.invoices.contains k = true := hinvoices ▸ hk
      exact h.doc.invoiced k hold
    · have hold : w.invoices.contains (hex h') = true := hinvoices ▸ hk
      have hswap := h.doc.unpaid h' hr hold
      show (Dict.mapVals _ (w.assign ref _).swaps).contains (hex h') = true
      rw [Dict.contains_mapVals, World.assign_swaps, ← Dict.contains_mapVals w.heap]
      exact hswap
  · rw [hrec.disk]
    exact h.disk
  · rw [hrec.views]
    exact h.views
  · have hold : w.Paying key := by
      dsimp only [World.assign] at hpaying
      split at hpaying <;> exact hpaying
    obtain ⟨hused, hkeeps⟩ := h.paying key hold
    exact ⟨hused, hkeeps.assign_fundingTxid ref t⟩
  · rw [hrec.trace]
    exact h.log
  · rw [hrec.views]
    exact h.said

/-- The store has been written since the swap was queued. -/
theorem Durable.send {ref : SwapRef} {tx : FundingTx} (hprov : Provenance actions w)
    (hstored : w.swaps.get? (hex (w.heap ref).paymentHash) = some ref) (hclean : w.db.Clean)
    (hheadless : w.db.headless = false) (h : Durable past actions w) :
    Durable past actions (w.send ref tx) := by
  have hrec := Recorded.assign w ref fun swap => { swap with fundingTxid := some tx.txid }
  refine (h.assign_fundingTxid (some tx.txid) hprov hstored).say ⟨w.heap ref, ?_, ?_⟩
  · rw [World.assign_heap_self, World.storedSwap?_of_headed (hrec.headless.trans hheadless),
      World.patchedSwap?_congr hrec.disk, h.replays.patched hclean]
    exact Option.map_eq_some_iff.mpr ⟨ref, hstored, rfl⟩
  · rw [World.assign_heap_self]
    exact ⟨rfl, rfl, rfl, rfl, fun _ => rfl⟩

theorem InStep.say (e : Event) (hs : InStep past w₀ w) : InStep past w₀ (w.say e) :=
  ⟨⟨hs.nextRef, hs.paymentHash, hs.managed, hs.idle⟩, hs.paying⟩

theorem InStep.send {ref : SwapRef} {tx : FundingTx} (hs : InStep past w₀ w) :
    InStep past w₀ (w.send ref tx) := by
  have hl := (unlabelling_fundingTxid (some tx.txid)).labelled ref w
  refine InStep.say _ ⟨⟨?_, fun ref' href => ?_, fun hm => ?_, fun hm address => ?_⟩, fun key hpaying => ?_⟩
  · rw [hl.nextRef]
    exact hs.nextRef
  · rw [hl.paymentHash]
    exact hs.paymentHash ref' href
  · rw [World.assign_managed]
    exact hs.managed hm
  · rw [World.assign_lnwatcherCallbacks]
    exact hs.idle hm address
  · obtain ⟨hused, hkeeps⟩ := hs.paying key hpaying
    exact ⟨hused, hkeeps.assign_fundingTxid ref _⟩

/-! ## The run -/

/-- What a step keeps. -/
structure Backing (past : List Action) (a : Action) (w₀ w : World) : Prop where
  sending : Sending past (past ++ [a]) w
  inStep : InStep past w₀ w
  durable : Durable past (past ++ [a]) w
  pass : ∀ env, a = .callbacks env → InPass w₀ w
  headed : ∀ env, a = .callbacks env → (∃ k swap, ReadyToFund w₀ k swap) → w.Headed env

theorem survives_durable (hd : DistinctHashes (past ++ [a])) (ha : ¬ a.Restarts) (hok : OnDocument w₀ a)
    (hw₀ : Filed w₀) (hprov₀ : Provenance past w₀) : Survives a w₀ (Backing past a w₀) where
  move w w' hmove hw :=
    ⟨hw.sending.move hd hprov₀ hmove, hw.inStep.move hd hw₀ hw.sending.prov hmove hw.durable,
      hw.durable.move hd hw₀ hprov₀ hw.sending.prov hok hmove hw.inStep,
      fun env henv => (hw.pass env henv).move (henv ▸ hmove),
      fun env henv hready => hmove.headed env (hw.headed env henv hready)⟩
  restart env view hrestart := absurd hrestart ha
  create w₁ w main ref hw₁ hdue hprepared hw href hnone :=
    ⟨hw.sending.create ref, hw.inStep.say _, hw.durable.say trivial,
      fun env henv => (hw.pass env henv).create ref, hw.headed⟩
  send w₁ w main ref tx hw₁ hdue hprepared hw href hnone := by
    obtain ⟨p, hp, hpair⟩ := hw₁.sending.attached hd hdue hprepared href
    have hkey := (hw.sending.prov.swaps.table _ ref href).2
    have hstored : (w.createFunding ref).swaps.get? (hex ((w.createFunding ref).heap ref).paymentHash)
        = some ref := hkey ▸ href
    obtain ⟨w₂, hpath, hheadless⟩ := hprepared.headed p hp
    have hready : ∀ env, a = .callbacks env →
        ReadyToFund w₀ (hex main.paymentHash) (w₀.heap ref) := fun env henv =>
      (hw₁.pass env henv).ready hdue hprepared.same href hnone
    have hheaded : ∀ env, a = .callbacks env → w₂.Headed env := fun env henv =>
      headed_path env hpath (hw₁.headed env henv ⟨_, _, hready env henv⟩)
    refine ⟨(survives_sending hd hprov₀).send w₁ w main ref tx hw₁.sending hdue hprepared hw.sending href
      hnone, hw.inStep.send, hw.durable.send hw.sending.prov hstored (hprepared.clean p hp)
      (hheadless hheaded), fun env henv => (hw.pass env henv).send (hready env henv),
      fun env henv hany hblank => hw.headed env henv hany ?_⟩
    exact (Recorded.assign (w.createFunding ref) ref _).blank ▸ hblank

theorem Durable.later (h : Durable past actions w) (hused : ∀ h, Used past h → Used actions h) :
    Durable actions actions w where
  filed := h.filed
  replays := h.replays
  secrets := h.secrets
  doc := h.doc
  disk := h.disk
  views := h.views
  paying key hpaying := by
    obtain ⟨⟨h', hold, hkey⟩, hkeeps⟩ := h.paying key hpaying
    exact ⟨⟨h', hused h' hold, hkey⟩, hkeeps⟩
  log := h.log
  said := h.said

theorem durable_start : Durable [] [] World.start := by
  have hsound : Coherent [] { preimages := ∅, invoices := ∅, holdInvoices := ∅, swaps := ∅ } :=
    ⟨fun _ _ hswap => (nomatch hswap), fun _ hk => (nomatch hk), fun _ _ hk => (nomatch hk)⟩
  refine ⟨filed_start, replays_start, .start, hsound.doc ?_, fun d hd => ?_, fun v hv d hd => ?_,
    fun key hpaying => ?_, fun e he => (nomatch he), fun v hv e he => ?_⟩
  · exact ⟨fun _ => rfl, fun _ => rfl, fun _ => rfl, fun _ => rfl⟩
  · cases hd
    exact hsound
  · cases List.mem_singleton.mp hv
    cases hd
    exact hsound
  · rcases hpaying with ⟨toPay, htoPay, -⟩ | htask | ⟨invoice, htask⟩
    · cases htoPay
    · cases htask
    · cases htask
  · cases List.mem_singleton.mp hv
    cases he

theorem durable (actions : List Action) (hd : DistinctHashes actions)
    (hok : AllowedRun OnDocument World.start actions) :
    Durable actions actions (runOf actions World.start) := by
  refine runOf_induction (I := fun past w => AllowedRun OnDocument World.start past → Durable past past w)
    (fun _ => durable_start) (fun past a w hw hd h hok => ?_) actions hd hok
  have hsending : Sending past past w := hw ▸ sending past hd.init
  have hpast : Durable past past w := h hok.init
  have hlast : OnDocument w a := hw ▸ hok.last
  have hstart : Durable past (past ++ [a]) w := hpast.append hd
  refine Durable.later ?_ fun _ hused => hused.append
  by_cases ha : a.Restarts
  · exact step_restarts ha hstart fun env view hview =>
      hstart.restart env hview hsending.prov.append
  · refine (step_invariant (survives_durable hd ha hlast hpast.filed hsending.prov) ?_).durable
    refine ⟨hsending.append hd, ⟨Since.refl hpast.filed, hpast.paying⟩, hstart, fun _ _ => .start w,
      fun env henv => ?_⟩
    rw [henv] at hlast
    exact hlast

/-- **The record of a swap is in the datastore before money moves**, where money only moves on a content
that loads: before the funding transaction of a swap is sent, and before the invoice of a reverse swap is
paid. -/
theorem durable_before_money (actions : List Action) (hd : DistinctHashes actions)
    (hok : AllowedRun OnDocument World.start actions) :
    (∀ swap stored tx, .sendpsbt swap stored tx ∈ (runOf actions World.start).trace →
      ∃ record, stored = some record ∧ record.Backs swap) ∧
    ∀ h, Reversed actions h → ∀ swap stored,
      .payInvoice (hex h) swap stored ∈ (runOf actions World.start).trace →
        ∃ s record, swap = some s ∧ s.isReverse = true ∧ s.preimage.isSome = true ∧
          stored = some record ∧ record.Backs s := by
  have hlog := (durable actions hd hok).log
  refine ⟨fun swap stored tx he => hlog _ he, fun h hr swap stored he => ?_⟩
  obtain ⟨-, hback⟩ := hlog _ he
  exact hback h hr rfl

end

section Sample

open Sample

attribute [local instance] Sample.deployment

/-- The invoice of a client that pays on-chain. -/
def clientInvoice : Invoice where
  lightningInvoice := "client"
  rhash := otherHash
  amountMsat := some 50000000
  time := 1700000000
  exp := 3600

/-- After the first client's swap another one asks for a swap to lightning and sends its invoice, and
the plugin starts to pay it. -/
def payingRun : List Action :=
  fundedRun ++ [.request { Sample.env with urandomPreimage := otherPreimage }
      (.createnormalswap 50000 (2 :: List.replicate 32 4)),
    .request Sample.env (.addswapinvoice (some clientInvoice)), .payPending Sample.env,
    .payTask Sample.env 0 .failed]

/-- The client is the first one of a plugin whose datastore is empty. Its swap and its invoice are
queued, and the first write appends both to nothing. -/
def firstPayment : List Action :=
  boot ++ [.request { Sample.env with urandomPreimage := otherPreimage, consolidates := fun _ => false }
      (.createnormalswap 50000 (2 :: List.replicate 32 4)),
    .request { Sample.env with consolidates := fun _ => false } (.addswapinvoice (some clientInvoice)),
    .payPending Sample.env, .payTask Sample.env 0 .failed]

/-- A payment is started for a swap of which a new process would find nothing. -/
def Event.paysUnstored (h : Bytes) : Event → Bool
  | .payInvoice key (some _) none => key = hex h
  | _ => false

/-- **The first client is paid before its swap can be read back.** -/
theorem firstPayment_not_durable : DistinctHashes firstPayment ∧ Reversed firstPayment otherHash ∧
    ∃ swap, .payInvoice (hex otherHash) (some swap) none ∈ (runOf firstPayment World.start).trace := by
  refine ⟨by decide +kernel, ⟨.request { Sample.env with
      urandomPreimage := otherPreimage, consolidates := fun _ => false }
      (.createnormalswap 50000 (2 :: List.replicate 32 4)), by simp [firstPayment], by decide⟩, ?_⟩
  have hany : (runOf firstPayment World.start).trace.any (Event.paysUnstored otherHash) = true := by
    decide +kernel
  obtain ⟨e, he, hpays⟩ := List.any_eq_true.mp hany
  unfold Event.paysUnstored at hpays
  split at hpays
  · next key swap =>
    rw [of_decide_eq_true hpays] at he
    exact ⟨swap, he⟩
  · cases hpays

/-- A payment is started for a reverse swap of this run. -/
def Event.pays (h : Bytes) : Event → Bool
  | .payInvoice key _ _ => key = hex h
  | _ => false

theorem onDocument_payingRun : AllowedRun OnDocument World.start payingRun := by
  refine ⟨trivial, trivial, trivial, trivial, trivial, trivial, fun _ _ _ => rfl, trivial, trivial, trivial,
    fun _ => ?_, trivial⟩
  decide +kernel

theorem durable_before_money_paying :
    ((∀ swap stored tx, .sendpsbt swap stored tx ∈ (runOf payingRun World.start).trace →
        ∃ record, stored = some record ∧ record.Backs swap) ∧
      ∀ h, Reversed payingRun h → ∀ swap stored,
        .payInvoice (hex h) swap stored ∈ (runOf payingRun World.start).trace →
          ∃ s record, swap = some s ∧ s.isReverse = true ∧ s.preimage.isSome = true ∧
            stored = some record ∧ record.Backs s) ∧
      (runOf payingRun World.start).trace.any (Event.sends paymentHash) = true ∧
      (runOf payingRun World.start).trace.any (Event.pays otherHash) = true ∧
      Reversed payingRun otherHash :=
  ⟨durable_before_money payingRun (by decide +kernel) onDocument_payingRun, by decide +kernel,
    by decide +kernel, .request { Sample.env with urandomPreimage := otherPreimage }
      (.createnormalswap 50000 (2 :: List.replicate 32 4)), by simp [payingRun], by decide⟩

end Sample

end SubswapProvider
