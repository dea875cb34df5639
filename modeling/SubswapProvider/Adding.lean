import SubswapProvider.System
import SubswapProvider.Frame
import SubswapProvider.Writing

/-!
# Adding an invoice

`addswapinvoice` saves the invoice between its checks: those behind the save can only raise with the
invoice in the table and in the datastore. And it compares whole satoshis, of a swap of either
direction. `addswapinvoice_exact_iff` says where none of this matters.
-/

namespace SubswapProvider

open Deployment Effect

/-- The datastore holds the same. -/
structure SameContent (db db' : Db) : Prop where
  disk : db'.disk = db.disk
  blank : db'.blank = db.blank
  headless : db'.headless = db.headless

/-- The process after `write`, whether it raised or not. -/
def World.afterWrite (env : Env) (w : World) : World :=
  if w.db.writes env && env.writeFails w.db.calls then w.called else w.written env

theorem World.afterWrite_tables (env : Env) (w : World) :
    (w.afterWrite env).invoices = w.invoices ∧ (w.afterWrite env).invoicesToPay = w.invoicesToPay := by
  have hwrote : w.Wrote (w.afterWrite env) := by
    unfold World.afterWrite
    split
    · exact w.wrote_called
    · exact w.wrote_written env
  obtain ⟨db, views, hafter, -⟩ := hwrote
  rw [hafter]
  exact ⟨rfl, rfl⟩

/-- Storing an invoice leaves the table alone only if it is there. -/
theorem World.setInvoice_same_iff {w : World} {k : Hex} {invoice : Invoice} :
    (w.setInvoice k invoice).invoices = w.invoices ↔ w.invoices.get? k = some invoice := by
  unfold World.setInvoice
  split
  · next hsame => exact ⟨fun _ => hsame, fun _ => rfl⟩
  · next hdiffers =>
    refine ⟨fun h => ?_, fun h => absurd h hdiffers⟩
    rw [← h]
    exact Dict.get?_set_self _ _ _

theorem World.setInvoice_of_same {w : World} {k : Hex} {invoice : Invoice}
    (h : w.invoices.get? k = some invoice) : w.setInvoice k invoice = w := by
  unfold World.setInvoice
  rw [if_pos h]

section

variable [Deployment]

/-- What `addswapinvoice` promises: it returns for the right invoice only, and changes nothing when it
raises. -/
def AddsExactly (env : Env) (invoice : Option Invoice) (w : World) : Prop :=
  match serverAddSwapInvoice env invoice w with
  | .ok _ _ => ∃ inv swap preimage, invoice = some inv ∧ w.swap? (hex inv.rhash) = some swap ∧
      swap.isReverse = true ∧ swap.preimage = some preimage ∧ sha256 preimage = inv.rhash ∧
      swap.spendingTxid = none ∧ inv.amountMsat = some (swap.lightningAmount * 1000)
  | .error _ w' => w'.invoices = w.invoices ∧ w'.invoicesToPay = w.invoicesToPay ∧
      SameContent w.db w'.db

theorem AddsExactly.unchanged {env : Env} {invoice : Option Invoice} {w : World}
    (h : AddsExactly env invoice w) (hraises : returns (serverAddSwapInvoice env invoice) w = false) :
    (final (serverAddSwapInvoice env invoice) w).invoices = w.invoices := by
  unfold AddsExactly at h
  unfold returns at hraises
  unfold final
  cases hr : serverAddSwapInvoice env invoice w with
  | ok a s =>
    rw [hr] at hraises
    cases hraises
  | error e s =>
    rw [hr] at h
    exact h.1

/-! ## The checks -/

/-- The checks before the save pass. -/
structure Saved (inv : Invoice) (swap : SwapData) (w : World) : Prop where
  found : w.swap? (hex inv.rhash) = some swap
  amount : inv.amountSat = some swap.lightningAmount

/-- The checks behind the save, and the save itself, pass. -/
structure Accepted (env : Env) (inv : Invoice) (swap : SwapData) (w : World) : Prop where
  write : ((w.setInvoice (hex inv.rhash) inv).db.writes env && env.writeFails w.db.calls) = false
  preimage : ∃ preimage, swap.preimage = some preimage ∧ sha256 preimage = inv.rhash
  unspent : swap.spendingTxid = none
  running : w.running = true

omit [Deployment] in
theorem World.setInvoice_frame (k : Hex) (inv : Invoice) (w : World) :
    (w.setInvoice k inv).db.calls = w.db.calls ∧
      (w.setInvoice k inv).invoicesToPay = w.invoicesToPay := by
  unfold World.setInvoice
  split
  · exact ⟨rfl, rfl⟩
  · exact ⟨rfl, rfl⟩

omit [Deployment] in
/-- **Spec of `save_invoice`.** -/
theorem saveInvoice_run (env : Env) (inv : Invoice) (w : World) :
    saveInvoice env inv w =
      if ((w.setInvoice (hex inv.rhash) inv).db.writes env && env.writeFails w.db.calls) = true then
        .error .StorageReadWriteError ((w.setInvoice (hex inv.rhash) inv).afterWrite env)
      else .ok ⟨⟩ ((w.setInvoice (hex inv.rhash) inv).afterWrite env) := by
  show dbWrite env (w.setInvoice (hex inv.rhash) inv) = _
  unfold World.afterWrite
  rw [dbWrite_run, (World.setInvoice_frame _ inv w).1]
  split
  · rfl
  · rfl

/-- The end of `server_add_swap_invoice`, behind the save. -/
theorem triple_queueInvoice {env : Env} {inv : Invoice} {swap : SwapData} {w t : World}
    (hwrite : ((w.setInvoice (hex inv.rhash) inv).db.writes env && env.writeFails w.db.calls) = false)
    (ht : t.invoicesToPay = w.invoicesToPay) :
    Triple (· = t)
      (do
        let preimage ← orRaise .TypeError swap.preimage
        pyAssert (sha256 preimage = inv.rhash)
        pyAssert swap.spendingTxid.isNone
        setInvoiceToPay (hex inv.rhash) 0)
      (fun _ _ => Accepted env inv swap w) (fun _ s => s = t ∧ ¬ Accepted env inv swap w) := by
  by_cases haccepted : Accepted env inv swap w
  · obtain ⟨preimage, hpreimage, hhash⟩ := haccepted.preimage
    obtain ⟨toPay, htoPay⟩ := Option.isSome_iff_exists.mp haccepted.running
    rw [hpreimage, orRaise_some, pure_bind, decide_eq_true hhash, pyAssert_true, pure_bind,
      haccepted.unspent, Option.isNone_none, pyAssert_true, pure_bind]
    unfold setInvoiceToPay
    refine Triple.getBind fun s hs => ?_
    rw [hs, ht, htoPay]
    exact fun _ _ => haccepted
  · refine Triple.conseq (S := fun _ _ => False) (F := fun _ s => s = t) ?_ (fun _ h => h)
      (fun _ _ h => h.elim) fun _ _ hs => ⟨hs, haccepted⟩
    refine triple_orRaise (fun _ hs => hs) fun preimage hpreimage => ?_
    refine triple_pyAssert (fun _ hs => hs) fun hhash => ?_
    refine triple_pyAssert (fun _ hs => hs) fun hunspent => ?_
    unfold setInvoiceToPay
    refine Triple.getBind fun s hs => ?_
    cases htoPay : s.invoicesToPay with
    | none => exact Triple.throw fun _ h => h.trans hs
    | some toPay =>
      refine absurd ⟨hwrite, ⟨preimage, hpreimage, of_decide_eq_true hhash⟩, ?_, ?_⟩ haccepted
      · exact Option.isNone_iff_eq_none.mp hunspent
      · rw [World.running, ← ht, ← hs, htoPay]
        rfl

/-- **Spec of `server_add_swap_invoice`.** Behind the save every exception leaves the invoice. -/
theorem triple_serverAddSwapInvoice (env : Env) (inv : Invoice) (w : World) :
    Triple (· = w) (serverAddSwapInvoice env (some inv))
      (fun _ _ => ∃ swap, Saved inv swap w ∧ Accepted env inv swap w)
      (fun _ s => (s = w ∧ ∀ swap, ¬ Saved inv swap w) ∨
        ∃ swap, Saved inv swap w ∧ ¬ Accepted env inv swap w ∧
          s = (w.setInvoice (hex inv.rhash) inv).afterWrite env) := by
  by_cases hsaved : ∃ swap, Saved inv swap w
  · obtain ⟨swap, hsaved⟩ := hsaved
    have hrun := saveInvoice_run env inv w
    rintro s rfl
    unfold serverAddSwapInvoice
    rw [orRaise_some, pure_bind, get_bind]
    simp only [hsaved.found, hsaved.amount, orRaise_some, pure_bind, decide_true, pyAssert_true]
    by_cases hwrite : ((s.setInvoice (hex inv.rhash) inv).db.writes env &&
        env.writeFails s.db.calls) = true
    · rw [if_pos hwrite] at hrun
      rw [bind_error hrun]
      exact .inr ⟨swap, hsaved, fun h => absurd (h.write.symm.trans hwrite) Bool.false_ne_true, rfl⟩
    · rw [if_neg hwrite] at hrun
      rw [bind_ok hrun]
      have htoPay : ((s.setInvoice (hex inv.rhash) inv).afterWrite env).invoicesToPay
          = s.invoicesToPay := by
        rw [(World.afterWrite_tables env _).2, (World.setInvoice_frame _ inv s).2]
      refine (triple_queueInvoice (Bool.eq_false_iff.mpr hwrite) htoPay).conseq (fun _ h => h)
        (fun _ _ haccepted => ⟨swap, hsaved, haccepted⟩)
        (fun _ _ ht => .inr ⟨swap, hsaved, ht.2, ht.1⟩) _ rfl
  · refine Triple.conseq (S := fun _ _ => False) (F := fun _ s => s = w) ?_ (fun _ h => h)
      (fun _ _ h => h.elim) fun _ _ hs => .inl ⟨hs, fun swap h => hsaved ⟨swap, h⟩⟩
    unfold serverAddSwapInvoice
    rw [orRaise_some, pure_bind]
    refine Triple.getBind fun w' hw' => ?_
    subst hw'
    cases hswap : w'.swap? (hex inv.rhash) with
    | none => exact Triple.throw fun _ hs => hs
    | some swap =>
      refine triple_orRaise (fun _ hs => hs) fun amount hamount => ?_
      refine triple_pyAssert (fun _ hs => hs) fun heq => ?_
      exact absurd ⟨swap, hswap, of_decide_eq_true heq ▸ hamount⟩ hsaved

/-- The invoice is the right one to the millisatoshi, and for a swap of the right direction. -/
def Right (inv : Invoice) (swap : SwapData) : Prop :=
  swap.isReverse = true ∧ inv.amountMsat = some (swap.lightningAmount * 1000)

/-- The very invoice is stored already, and the datastore already holds what a write would store. -/
def Repeated (env : Env) (inv : Invoice) (w : World) : Prop :=
  w.invoices.get? (hex inv.rhash) = some inv ∧ SameContent w.db (w.afterWrite env).db

/-- An `addswapinvoice` ends before the save; or it passes every check, and the invoice is right in
what they do not look at; or it raises behind a save that changes nothing. -/
def AddMeets (env : Env) (invoice : Option Invoice) (w : World) : Prop :=
  ∀ inv swap, invoice = some inv → Saved inv swap w →
    (Accepted env inv swap w → Right inv swap) ∧
    (¬ Accepted env inv swap w → Repeated env inv w)

/-- **`addswapinvoice` accepts exactly the right invoice or changes nothing** exactly where
`AddMeets` holds. -/
theorem addswapinvoice_exact_iff (env : Env) (invoice : Option Invoice) (w : World) :
    AddsExactly env invoice w ↔ AddMeets env invoice w := by
  cases invoice with
  | none =>
    constructor
    · intro _ inv swap hinv
      cases hinv
    · intro _
      exact ⟨rfl, rfl, rfl, rfl, rfl⟩
  | some inv =>
    have hspec := triple_serverAddSwapInvoice env inv w w rfl
    have hunique : ∀ {swap swap'}, Saved inv swap w → Saved inv swap' w → swap' = swap :=
      fun h h' => Option.some_inj.mp (h'.found.symm.trans h.found)
    unfold AddsExactly
    cases hr : serverAddSwapInvoice env (some inv) w with
    | ok a s =>
      rw [hr] at hspec
      obtain ⟨swap, hsaved, haccepted⟩ := hspec
      constructor
      · rintro ⟨inv', swap', preimage, hinv, hfound, hreverse, -, -, -, hamount⟩ inv'' swap'' hinv''
          hsaved''
        cases hinv
        cases hinv''
        cases hfound.symm.trans hsaved''.found
        cases hunique hsaved hsaved''
        exact ⟨fun _ => ⟨hreverse, hamount⟩, fun hnot => absurd haccepted hnot⟩
      · intro h
        obtain ⟨hreverse, hamount⟩ := (h inv swap rfl hsaved).1 haccepted
        obtain ⟨preimage, hpreimage, hhash⟩ := haccepted.preimage
        exact ⟨inv, swap, preimage, rfl, hsaved.found, hreverse, hpreimage, hhash, haccepted.unspent,
          hamount⟩
    | error e s =>
      rw [hr] at hspec
      rcases hspec with ⟨rfl, hnot⟩ | ⟨swap, hsaved, hnot, rfl⟩
      · constructor
        · intro _ inv' swap hinv hsaved
          cases hinv
          exact absurd hsaved (hnot swap)
        · intro _
          exact ⟨rfl, rfl, rfl, rfl, rfl⟩
      · have htables := World.afterWrite_tables env (w.setInvoice (hex inv.rhash) inv)
        dsimp only
        constructor
        · rintro ⟨hinvoices, -, hcontent⟩ inv' swap' hinv hsaved'
          cases hinv
          cases hunique hsaved hsaved'
          refine ⟨fun h => absurd h hnot, fun _ => ?_⟩
          have hstored := World.setInvoice_same_iff.mp (htables.1.symm.trans hinvoices)
          rw [World.setInvoice_of_same hstored] at hcontent
          exact ⟨hstored, hcontent⟩
        · intro h
          obtain ⟨hstored, hcontent⟩ := (h inv swap rfl hsaved).2 hnot
          rw [World.setInvoice_of_same hstored] at htables ⊢
          exact ⟨htables.1, htables.2, hcontent⟩

end

section Sample

open Sample

attribute [local instance] Sample.deployment

/-- An invoice for the hash of a normal swap: its preimage is not known, which comes out behind the
save. -/
theorem addswapinvoice_stores_refused :
    ∃ w invoice, Reachable (fun _ _ => True) w ∧ ¬ AddsExactly Sample.env (some invoice) w := by
  let invoice : Invoice := {
    lightningInvoice := "lnbc", rhash := paymentHash, amountMsat := some 50000000,
    time := 1700000000, exp := 3600 }
  refine ⟨runOf (boot ++ [.request Sample.env (createswap 50000)]) World.start, invoice,
    reachable_runOf _, fun h => ?_⟩
  have hstored : ((final (serverAddSwapInvoice Sample.env (some invoice))
      (runOf (boot ++ [.request Sample.env (createswap 50000)]) World.start)).invoices.get?
        (hex paymentHash)).isSome = true := by decide +kernel
  rw [h.unchanged (by decide +kernel)] at hstored
  revert hstored
  decide +kernel

end Sample

end SubswapProvider
