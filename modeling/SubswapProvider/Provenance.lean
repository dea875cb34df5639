import SubswapProvider.Throughout

/-!
# Where invoices and swaps come from

The payment hashes of hold invoices and swaps are those the requests of the run brought in: a hold
invoice with a prepay invoice attached, and a normal swap, belong to one `createswap`. When the
payment hashes of a run are pairwise distinct, a hash tells its request.
-/

namespace SubswapProvider

open Deployment Effect

section

variable [Deployment]

/-- A `createswap` of the run brought in `h`, and `p` for the mining fees. -/
def Paired (actions : List Action) (h p : Bytes) : Prop := ∃ a ∈ actions, a.pair? = some (h, p)

/-- A `createnormalswap` of the run brought in `h`. -/
def Reversed (actions : List Action) (h : Bytes) : Prop := ∃ a ∈ actions, a.reverseHash? = some h

/-- The run brought in `h`. -/
def Used (actions : List Action) (h : Bytes) : Prop := ∃ a ∈ actions, h ∈ a.hashes

variable {actions past : List Action} {a b : Action} {h h' p p' : Bytes}

theorem Action.hashes_of_pair (ha : a.pair? = some (h, p)) : a.hashes = [h, p] := by
  unfold Action.hashes
  rw [ha]
  cases a with
  | request env r =>
    cases r with
    | createnormalswap => cases ha
    | _ => rfl
  | _ => cases ha

theorem Action.hashes_of_reverse (ha : a.reverseHash? = some h) : a.hashes = [h] := by
  unfold Action.hashes
  rw [ha]
  cases a with
  | request env r =>
    cases r with
    | createswap => cases ha
    | _ => rfl
  | _ => cases ha

theorem Action.main_mem (ha : a.pair? = some (h, p)) : h ∈ a.hashes := by
  rw [Action.hashes_of_pair ha]
  simp

theorem Action.prepay_mem (ha : a.pair? = some (h, p)) : p ∈ a.hashes := by
  rw [Action.hashes_of_pair ha]
  simp

theorem Action.reverse_mem (ha : a.reverseHash? = some h) : h ∈ a.hashes := by
  rw [Action.hashes_of_reverse ha]
  simp

theorem Paired.used_main (hpair : Paired actions h p) : Used actions h := by
  obtain ⟨a, ha, hp⟩ := hpair
  exact ⟨a, ha, Action.main_mem hp⟩

theorem Paired.used_prepay (hpair : Paired actions h p) : Used actions p := by
  obtain ⟨a, ha, hp⟩ := hpair
  exact ⟨a, ha, Action.prepay_mem hp⟩

theorem Paired.append (hpair : Paired past h p) : Paired (past ++ [a]) h p := by
  obtain ⟨b, hb, hp⟩ := hpair
  exact ⟨b, List.mem_append_left _ hb, hp⟩

theorem Paired.new (ha : a.pair? = some (h, p)) : Paired (past ++ [a]) h p :=
  ⟨a, List.mem_append_right _ (List.mem_singleton_self a), ha⟩

theorem Paired.of_append (hpair : Paired (past ++ [a]) h p) :
    Paired past h p ∨ a.pair? = some (h, p) := by
  obtain ⟨b, hb, hp⟩ := hpair
  rcases List.mem_append.mp hb with hb | hb
  · exact .inl ⟨b, hb, hp⟩
  · exact .inr (List.mem_singleton.mp hb ▸ hp)

theorem Reversed.append (hrev : Reversed past h) : Reversed (past ++ [a]) h := by
  obtain ⟨b, hb, hp⟩ := hrev
  exact ⟨b, List.mem_append_left _ hb, hp⟩

theorem Reversed.new (ha : a.reverseHash? = some h) : Reversed (past ++ [a]) h :=
  ⟨a, List.mem_append_right _ (List.mem_singleton_self a), ha⟩

theorem Reversed.used (hrev : Reversed actions h) : Used actions h := by
  obtain ⟨a, ha, hr⟩ := hrev
  exact ⟨a, ha, Action.reverse_mem hr⟩

theorem Used.append (hused : Used past h) : Used (past ++ [a]) h := by
  obtain ⟨b, hb, hh⟩ := hused
  exact ⟨b, List.mem_append_left _ hb, hh⟩

theorem Used.new (ha : h ∈ a.hashes) : Used (past ++ [a]) h :=
  ⟨a, List.mem_append_right _ (List.mem_singleton_self a), ha⟩

/-! ## Invoices and swaps of a run -/

/-- The hold invoice comes from a `createswap` of the run. -/
structure InvoiceFrom (actions : List Action) (inv : HoldInvoice) : Prop where
  main_or_prepay : ∃ h p, Paired actions h p ∧ (inv.paymentHash = h ∨ inv.paymentHash = p)
  paired : ∀ p, inv.associatedInvoice = some p → Paired actions inv.paymentHash p

/-- The swap comes from the run. -/
structure SwapFrom (actions : List Action) (swap : SwapData) : Prop where
  normal : swap.isReverse = false →
    ∃ p, Paired actions swap.paymentHash p ∧ swap.prepayHash = some p
  reverse : swap.isReverse = true → Reversed actions swap.paymentHash

structure Provenance (actions : List Action) (w : World) : Prop where
  holds : HoldsThroughout (fun _ => InvoiceFrom actions) w
  swaps : SwapsThroughout (SwapFrom actions) w

/-! ## Distinct payment hashes -/

namespace DistinctHashes

variable (hd : DistinctHashes actions)

include hd

/-- A payment hash tells the request that brought it in. -/
theorem unique (ha : a ∈ actions) (hb : b ∈ actions) (hah : h ∈ a.hashes) (hbh : h ∈ b.hashes) :
    a = b := by
  by_contra hne
  have hpair : List.Pairwise (Function.onFun List.Disjoint Action.hashes) actions :=
    (List.nodup_flatMap.mp hd).2
  have hsymm : Std.Symm (Function.onFun List.Disjoint Action.hashes) :=
    ⟨fun _ _ hdisj => hdisj.symm⟩
  exact hpair.forall ha hb hne hah hbh

theorem nodup (ha : a ∈ actions) : a.hashes.Nodup := (List.nodup_flatMap.mp hd).1 a ha

theorem prepay_unique (h₁ : Paired actions h p) (h₂ : Paired actions h p') : p = p' := by
  obtain ⟨a, ha, hp⟩ := h₁
  obtain ⟨b, hb, hp'⟩ := h₂
  have heq : a = b := hd.unique ha hb (Action.main_mem hp) (Action.main_mem hp')
  rw [heq, hp'] at hp
  cases hp
  rfl

theorem main_unique (h₁ : Paired actions h p) (h₂ : Paired actions h' p) : h = h' := by
  obtain ⟨a, ha, hp⟩ := h₁
  obtain ⟨b, hb, hp'⟩ := h₂
  have heq : a = b := hd.unique ha hb (Action.prepay_mem hp) (Action.prepay_mem hp')
  rw [heq, hp'] at hp
  cases hp
  rfl

/-- The hash of the mining fees is not the hash of a swap. -/
theorem prepay_ne_main (h₁ : Paired actions h p) (h₂ : Paired actions p p') : False := by
  obtain ⟨a, ha, hp⟩ := h₁
  obtain ⟨b, hb, hp'⟩ := h₂
  have heq : a = b := hd.unique ha hb (Action.prepay_mem hp) (Action.main_mem hp')
  rw [heq, hp'] at hp
  cases hp
  have hnodup := hd.nodup hb
  rw [Action.hashes_of_pair hp'] at hnodup
  simp at hnodup

theorem main_ne_reverse (h₁ : Paired actions h p) (h₂ : Reversed actions h) : False := by
  obtain ⟨a, ha, hp⟩ := h₁
  obtain ⟨b, hb, hr⟩ := h₂
  have heq : a = b := hd.unique ha hb (Action.main_mem hp) (Action.reverse_mem hr)
  subst heq
  have hhashes := (Action.hashes_of_pair hp).symm.trans (Action.hashes_of_reverse hr)
  cases hhashes

theorem prepay_ne_reverse (h₁ : Paired actions h p) (h₂ : Reversed actions p) : False := by
  obtain ⟨a, ha, hp⟩ := h₁
  obtain ⟨b, hb, hr⟩ := h₂
  have heq : a = b := hd.unique ha hb (Action.prepay_mem hp) (Action.reverse_mem hr)
  subst heq
  have hhashes := (Action.hashes_of_pair hp).symm.trans (Action.hashes_of_reverse hr)
  cases hhashes

/-- A swap with a hold invoice is the normal swap of that invoice. -/
theorem normal_of_hold {inv : HoldInvoice} {swap : SwapData} (hinv : InvoiceFrom actions inv)
    (hswap : SwapFrom actions swap) (hhash : swap.paymentHash = inv.paymentHash) :
    swap.isReverse = false := by
  by_contra hr
  have hrev : Reversed actions inv.paymentHash := hhash ▸ hswap.reverse (by simpa using hr)
  obtain ⟨h, p, hpair, hh | hp⟩ := hinv.main_or_prepay
  · exact hd.main_ne_reverse hpair (hh ▸ hrev)
  · exact hd.prepay_ne_reverse hpair (hp ▸ hrev)

end DistinctHashes

theorem DistinctHashes.init (hd : DistinctHashes (past ++ [a])) : DistinctHashes past := by
  unfold DistinctHashes at hd ⊢
  rw [List.flatMap_append] at hd
  exact (List.nodup_append.mp hd).1

/-- What the next step brings in has not been brought in before. -/
theorem DistinctHashes.fresh (hd : DistinctHashes (past ++ [a])) (ha : h ∈ a.hashes) :
    ¬ Used past h := by
  rintro ⟨b, hb, hbh⟩
  unfold DistinctHashes at hd
  rw [List.flatMap_append] at hd
  have hdisj := List.disjoint_of_nodup_append hd
  refine hdisj (List.mem_flatMap.mpr ⟨b, hb, hbh⟩) ?_
  simpa using ha

/-! ## The invariant -/

theorem InvoiceFrom.used {inv : HoldInvoice} (hinv : InvoiceFrom actions inv) :
    Used actions inv.paymentHash := by
  obtain ⟨h, p, hpair, hh | hp⟩ := hinv.main_or_prepay
  · exact hh ▸ hpair.used_main
  · exact hp ▸ hpair.used_prepay

theorem FreshInvoice.hash {inv : HoldInvoice} (hfresh : FreshInvoice a inv) :
    inv.paymentHash ∈ a.hashes := by
  obtain ⟨h, p, hpair, hh | hp⟩ := hfresh.pair
  · exact hh ▸ Action.main_mem hpair
  · exact hp ▸ Action.prepay_mem hpair

theorem FreshInvoice.invoiceFrom {inv : HoldInvoice} (hfresh : FreshInvoice a inv) :
    InvoiceFrom (past ++ [a]) inv := by
  obtain ⟨h, p, hpair, hhash⟩ := hfresh.pair
  refine ⟨⟨h, p, .new hpair, hhash⟩, fun q hq => ?_⟩
  rw [hfresh.associated] at hq
  cases hq

theorem InvoiceFrom.append {inv : HoldInvoice} (hinv : InvoiceFrom past inv) :
    InvoiceFrom (past ++ [a]) inv := by
  obtain ⟨h, p, hpair, hhash⟩ := hinv.main_or_prepay
  exact ⟨⟨h, p, hpair.append, hhash⟩, fun q hq => (hinv.paired q hq).append⟩

theorem SwapFrom.append {swap : SwapData} (hswap : SwapFrom past swap) :
    SwapFrom (past ++ [a]) swap := by
  refine ⟨fun hn => ?_, fun hr => (hswap.reverse hr).append⟩
  obtain ⟨p, hpair, hp⟩ := hswap.normal hn
  exact ⟨p, hpair.append, hp⟩

theorem Alters.paymentHash {w : World} {k : Hex} {inv inv' : HoldInvoice}
    (hal : Alters a w k inv inv') : inv'.paymentHash = inv.paymentHash := by
  cases hal <;> rfl

/-- Only bundling attaches a prepay invoice. -/
theorem Alters.associated {w : World} {k : Hex} {inv inv' : HoldInvoice}
    (hal : Alters a w k inv inv') : inv'.associatedInvoice = inv.associatedInvoice ∨
      ∃ p, inv'.associatedInvoice = some p ∧ inv.associatedInvoice = none ∧
        a.pair? = some (inv.paymentHash, p) := by
  cases hal with
  | bundle p hnone hpair => exact .inr ⟨p, rfl, hnone, hpair⟩
  | _ => exact .inl rfl

theorem Alters.invoiceFrom {w : World} {k : Hex} {inv inv' : HoldInvoice}
    (hal : Alters a w k inv inv') (hinv : InvoiceFrom (past ++ [a]) inv) :
    InvoiceFrom (past ++ [a]) inv' := by
  refine ⟨?_, fun p hp => ?_⟩
  · rw [hal.paymentHash]
    exact hinv.main_or_prepay
  · rw [hal.paymentHash]
    rcases hal.associated with heq | ⟨q, hq, -, hpair⟩
    · exact hinv.paired p (heq ▸ hp)
    · rw [hq] at hp
      cases hp
      exact .new hpair

theorem NewSwap.swapFrom {swap : SwapData} (hnew : NewSwap a swap) : SwapFrom (past ++ [a]) swap := by
  refine ⟨fun hn => ?_, fun hr => .new (hnew.reverse hr).1⟩
  obtain ⟨p, hpair, hp⟩ := hnew.normal hn
  exact ⟨p, .new hpair, hp⟩

theorem Assignment.swapFrom {now : SwapData} {f : SwapData → SwapData} (hf : Assignment now f)
    {swap : SwapData} (hswap : SwapFrom actions swap) : SwapFrom actions (f swap) := by
  cases hf <;> exact ⟨hswap.normal, hswap.reverse⟩

theorem survives_provenance (w₀ : World) : Survives a w₀ (Provenance (past ++ [a])) := by
  have htrivial : Survives a w₀ fun _ => True := .trivial
  have hholds := htrivial.holds (P := InvoiceFrom (past ++ [a]))
    (fun _ hinv => ⟨hinv.main_or_prepay, hinv.paired⟩) (fun _ inv _ hfresh => hfresh.invoiceFrom)
    fun _ k inv inv' _ _ hal hinv => hal.invoiceFrom hinv
  have hswaps := hholds.swaps (P := SwapFrom (past ++ [a])) (fun swap hnew => hnew.swapFrom)
    (fun _ hswap => ⟨hswap.normal, hswap.reverse⟩) (fun _ _ _ _ f hf _ hswap => hf.swapFrom hswap)
    fun _ _ hswap => ⟨hswap.normal, hswap.reverse⟩
  exact hswaps.congr fun w => ⟨fun hw => ⟨hw.1.2, hw.2⟩, fun hw => ⟨⟨trivial, hw.holds⟩, hw.swaps⟩⟩

theorem Provenance.append {w : World} (hw : Provenance past w) : Provenance (past ++ [a]) w where
  holds := hw.holds.mono fun _ _ hinv => hinv.append
  swaps := hw.swaps.mono fun _ hswap => hswap.append

theorem provenance_start : Provenance [] World.start where
  holds := .start
  swaps := .start

/-- **Every invoice and every swap comes from the run.** -/
theorem provenance (actions : List Action) : Provenance actions (runOf actions World.start) := by
  induction actions using List.reverseRecOn with
  | nil => exact provenance_start
  | append_singleton past a ih =>
    rw [runOf_append]
    exact step_invariant (survives_provenance _) ih.append

end

end SubswapProvider
