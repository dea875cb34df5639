import SubswapProvider.Tasks
import SubswapProvider.Adding

/-!
# The lock on a payment

A task of `pay_pending_ln_invoice` locks its key: it puts a far time into `invoices_to_pay`, so that
the loop leaves the key alone while the task waits for `pay_invoice`. Nothing but the time guards the
key. `addswapinvoice` sets it to 0 without a look at it, and the loop then starts a second attempt
(`second_attempt`); an attempt that fails its swap only lifts the lock if the swap is still in the table.

No other step unlocks a key. `_claim_swap` would, once `_fail_swap` or `delete_finished_reverse_swap` has
taken the key away, but only for a reverse swap whose preimage is unknown, and the plugin has made the
preimages of its reverse swaps itself (`secrets_step`). So `one_attempt` asks of the requests that none
sends the invoice of a running attempt again, and derives that the lock stands at every wake-up of the loop;
it says of every attempt that ends whether its key is free.
-/

namespace SubswapProvider

open Deployment Effect

/-- The hash whose invoice a task pays. -/
def PayTask.key : PayTask → Hex
  | .spawned key => key
  | .paying key _ => key

/-- The task waits for its call of `pay_invoice`. -/
def PayTask.calls : PayTask → Bool
  | .spawned _ => false
  | .paying _ _ => true

/-- An attempt to pay the invoice of a key is in progress. -/
def World.Attempts (w : World) (key : Hex) : Prop :=
  ∃ task ∈ w.payTasks, task.calls = true ∧ task.key = key

/-- The key of a payment is gone, or due at most 60 seconds from `now`. -/
def World.RetriesSoon (w : World) (now : Nat) (key : Hex) : Prop :=
  ∀ not_before ∈ w.notBefore key, not_before ≤ now + 60

/-- `addswapinvoice` of the invoice passes every check and sets the time of its key. -/
def World.Unlocks [Deployment] (w : World) (env : Env) (invoice : Invoice) : Prop :=
  ∃ swap, Saved invoice swap w ∧ Accepted env invoice swap w

/-- No invoice is sent again while an attempt to pay it runs. When the loop wakes up each task has taken its
first step, as `asyncio` runs it before any timer that is set after it, and the time of the locks is still
to come. -/
def Guarded [Deployment] (w : World) : Action → Prop
  | .request env (.addswapinvoice (some invoice)) =>
    w.Unlocks env invoice → ¬ w.Attempts (hex invoice.rhash)
  | .payPending env => ∀ task ∈ w.payTasks, task.calls = true ∧ env.now < 1000000000000
  | _ => True

/-- At most one call of `pay_invoice` for each key is in progress. -/
def World.PaysOnce (w : World) : Prop :=
  ∀ (i j : Nat) (key : Hex) (invoice invoice' : Invoice),
    w.payTasks[i]? = some (.paying key invoice) → w.payTasks[j]? = some (.paying key invoice') → i = j

/-- What lets an attempt that ends leave its key free: the swap it fails is in the table, or the time of
the key is near anyway; the invoice it has paid can be deleted. -/
def World.Frees (w : World) (env : Env) (result : PayResult) : PayTask → Prop
  | .spawned key =>
    w.running = false ∨ w.swaps.contains key = true ∨ 1000000000000 ≤ env.now + 60
  | .paying key invoice => w.RetriesSoon env.now key ∨
    match result with
    | .raised => w.swaps.contains key = true
    | .failed => invoice.hasExpired env = false ∨ w.swaps.contains key = true
    | .paid => w.invoices.contains key = false ∨ env.writeFails w.db.calls = false

namespace World

variable (w : World)

/-- The state in which the `n`-th task goes on. -/
def without (n : Nat) : World := { w with payTasks := w.payTasks.eraseIdx n }

/-- The state after `invoices_to_pay[key] = not_before`. -/
def setNotBefore (key : Hex) (not_before : Nat) : World :=
  { w with invoicesToPay := w.invoicesToPay.map fun toPay => toPay.set key not_before }

/-- The state in which the invoice of a key is paid. -/
def attempt (key : Hex) (invoice : Invoice) : World :=
  { w with payTasks := w.payTasks ++ [.paying key invoice] }

theorem notBefore_setNotBefore (key : Hex) (not_before : Nat) :
    (w.setNotBefore key not_before).notBefore key =
      if w.running then some not_before else none := by
  unfold notBefore setNotBefore running
  cases w.invoicesToPay with
  | none => rfl
  | some toPay => exact Dict.get?_set_self _ _ _

theorem notBefore_setNotBefore_ne {key k : Hex} (hne : k ≠ key) (not_before : Nat) :
    (w.setNotBefore key not_before).notBefore k = w.notBefore k := by
  unfold notBefore setNotBefore
  cases w.invoicesToPay with
  | none => rfl
  | some toPay => exact Dict.get?_set_ne toPay not_before hne

theorem notBefore_none {w : World} (h : w.invoicesToPay = none) (key : Hex) :
    w.notBefore key = none := by
  unfold notBefore
  rw [h]
  rfl

theorem notBefore_stopped {w : World} (h : w.running = false) (key : Hex) :
    w.notBefore key = none :=
  notBefore_none (Option.isSome_eq_false_iff.mp h |> Option.isNone_iff_eq_none.mp) key

theorem RetriesSoon.of_gone {w : World} {now : Nat} {key : Hex} (h : w.notBefore key = none) :
    w.RetriesSoon now key := by
  intro not_before ht
  rw [h] at ht
  cases ht

theorem RetriesSoon.congr {w w' : World} {now : Nat} {key : Hex}
    (h : w'.notBefore key = w.notBefore key) : w'.RetriesSoon now key ↔ w.RetriesSoon now key := by
  unfold RetriesSoon
  rw [h]

theorem retriesSoon_iff {w : World} {now not_before : Nat} {key : Hex}
    (h : w.notBefore key = some not_before) : w.RetriesSoon now key ↔ not_before ≤ now + 60 := by
  constructor
  · intro hsoon
    exact hsoon not_before h
  · intro hle t ht
    rw [h] at ht
    cases ht
    exact hle

end World

section

variable (env : Env) (w : World) (key : Hex)

/-! ## The parts of an attempt -/

theorem setInvoiceToPay_run (not_before : Nat) :
    setInvoiceToPay key not_before w =
      if w.running then .ok ⟨⟩ (w.setNotBefore key not_before) else .error .AttributeError w := by
  unfold setInvoiceToPay World.running World.setNotBefore
  rw [get_bind]
  cases htoPay : w.invoicesToPay with
  | none => rfl
  | some toPay =>
    show EStateM.Result.ok PUnit.unit { w with invoicesToPay := some (toPay.set key not_before) } = _
    rfl

/-- Once the key is popped it stays away. -/
theorem gone_popInvoiceToPay {P : World → Prop} :
    Triple P (popInvoiceToPay key) (fun _ s => s.notBefore key = none)
      (fun _ s => s.notBefore key = none) := by
  refine Triple.getBind fun w _ => ?_
  split
  · next hnone =>
    refine Triple.throw fun s hs => ?_
    rw [hs]
    exact World.notBefore_none hnone key
  · next toPay _ => exact Triple.modify fun s _ => Dict.get?_pop_self toPay key

theorem gone_dbWrite : Keeps (fun s => s.notBefore key = none) (dbWrite env) := by
  have hwrote : ∀ s t : World, s.Wrote t → s.notBefore key = none → t.notBefore key = none := by
    rintro s _ ⟨db, views, rfl, -⟩ hs
    exact hs
  refine Triple.at fun w hw => ?_
  exact (triple_dbWrite env w).conseq (fun _ => id) (fun _ s hs => hwrote w s hs.1 hw)
    fun _ s hs => hwrote w s hs.1 hw

/-- Failing a swap takes its key away, whether the call returns or raises. -/
theorem gone_failSwap (ref : SwapRef) :
    Triple (· = w) (failSwap env ref)
      (fun _ s => s.notBefore (hex (w.heap ref).paymentHash) = none)
      (fun _ s => s.notBefore (hex (w.heap ref).paymentHash) = none) := by
  unfold failSwap
  refine Triple.getBind fun s hs => ?_
  rw [hs]
  -- the test compares bytes with hex strings, so the second branch is taken
  have hbranch : (!(w.heap ref).isReverse &&
      (PyKey.bytes (w.heap ref).paymentHash).isIn w.holdInvoiceCallbacks) = false :=
    Bool.and_false _
  simp only [hbranch, Bool.false_eq_true, if_false]
  have hdelete : Triple (· = w) (deleteInvoice env (hex (w.heap ref).paymentHash) false)
      (fun _ _ => True) (fun _ _ => False) := by
    refine Triple.getBind fun s _ => ?_
    split
    · exact fun _ _ => trivial
    · exact Triple.pure fun _ _ => trivial
  refine Triple.bind (Triple.bind (hdelete.conseq (fun _ => id) (fun _ _ => id) fun _ _ h => h.elim)
    fun _ => gone_popInvoiceToPay _) fun _ => ?_
  refine Keeps.bind (Keeps.modify fun _ hs => hs) fun _ => Keeps.bind (Keeps.ite ?_ Keeps.pure)
    fun _ => gone_dbWrite env _
  refine Keeps.get fun _ => Keeps.ite (Keeps.modify fun s hs => ?_) Keeps.throw
  unfold World.popSwap
  split
  · exact hs
  · exact hs

/-- Failing the swap of a key takes the key away if there is such a swap, and does nothing otherwise. -/
theorem failSwapOf_key (hfiled : ∀ k ref, w.swaps.get? k = some ref → k = hex (w.heap ref).paymentHash) :
    if w.swaps.contains key then (final (failSwapOf env key) w).notBefore key = none
    else final (failSwapOf env key) w = w := by
  have hrun : final (failSwapOf env key) w =
      final ((w.swaps.get? key).elim (pure ()) (failSwap env)) w := by
    unfold failSwapOf
    apply final_congr
    rw [get_bind]
    cases w.swaps.get? key <;> rfl
  rw [hrun]
  unfold Dict.contains
  cases href : w.swaps.get? key with
  | none => rfl
  | some ref =>
    have hgone : (final (failSwap env ref) w).notBefore (hex (w.heap ref).paymentHash) = none :=
      (gone_failSwap env w ref).final rfl
    rw [← hfiled key ref href] at hgone
    exact hgone

/-! ## An attempt -/

/-- A task that has been spawned locks its key, and calls `pay_invoice` if it finds the invoice. -/
theorem payPendingLnInvoice_final :
    final (payPendingLnInvoice env key) w =
      if w.running then
        match w.invoices.get? key with
        | none => final (failSwapOf env key) (w.setNotBefore key 1000000000000)
        | some invoice =>
          final (emit (.payInvoice key (w.swap? key) (w.storedSwap? key)))
            ((w.setNotBefore key 1000000000000).attempt key invoice)
      else w := by
  have hset := setInvoiceToPay_run w key 1000000000000
  unfold payPendingLnInvoice
  split
  · next hrunning =>
    rw [if_pos hrunning] at hset
    rw [final_bind_ok hset]
    refine (final_congr (get_bind _ _)).trans ?_
    split
    · next hnone =>
      have hinvoice : w.invoices.get? key = none := hnone
      rw [hinvoice]
    · next invoice hsome =>
      have hinvoice : w.invoices.get? key = some invoice := hsome
      rw [hinvoice]
      rfl
  · next hrunning =>
    rw [if_neg hrunning] at hset
    exact final_bind_error hset

/-- It ends, or goes on to wait for `pay_invoice` with its key locked. -/
theorem tasks_spawned {tasks : List PayTask} {locked : Hex → Prop} (hk : ¬ locked key)
    (hw : TasksAre tasks locked w) :
    TasksAre tasks locked (final (payPendingLnInvoice env key) w) ∨
      ∃ invoice, TasksAre (tasks ++ [.paying key invoice]) (fun k => locked k ∨ k = key)
        (final (payPendingLnInvoice env key) w) := by
  rw [payPendingLnInvoice_final]
  split
  · next hrunning =>
    have hlocks : ∀ k, locked k → (w.setNotBefore key 1000000000000).Locked k := by
      intro k hlocked t ht
      have hne : k ≠ key := fun heq => hk (heq ▸ hlocked)
      exact hw.locks k hlocked t ((w.notBefore_setNotBefore_ne hne _).symm.trans ht)
    split
    · exact .inl ((tasks_failSwapOf env key).final ⟨hw.tasks, hlocks⟩)
    · next invoice _ =>
      refine .inr ⟨invoice, congrArg (· ++ [PayTask.paying key invoice]) hw.tasks, fun k hlocked => ?_⟩
      rcases hlocked with hlocked | rfl
      · exact hlocks k hlocked
      · intro t ht
        -- the task has put this time there itself
        have hget : (w.setNotBefore k 1000000000000).notBefore k = some t := ht
        rw [World.notBefore_setNotBefore, if_pos hrunning] at hget
        exact (Option.some_inj.mp hget).symm
  · exact .inl hw

/-- One that ends leaves its key locked unless its swap is in the table. -/
theorem spawned_frees_iff
    (hfiled : ∀ k ref, w.swaps.get? k = some ref → k = hex (w.heap ref).paymentHash)
    (hends : (final (payPendingLnInvoice env key) w).payTasks = w.payTasks) :
    (final (payPendingLnInvoice env key) w).RetriesSoon env.now key ↔
      w.running = false ∨ w.swaps.contains key = true ∨ 1000000000000 ≤ env.now + 60 := by
  rw [payPendingLnInvoice_final] at hends ⊢
  cases hrunning : w.running with
  | false =>
    exact iff_of_true (.of_gone (World.notBefore_stopped hrunning key)) (.inl rfl)
  | true =>
    rw [hrunning, if_pos rfl] at hends
    rw [if_pos rfl]
    split at hends
    · next hnone =>
      have hlocked : (w.setNotBefore key 1000000000000).notBefore key = some 1000000000000 := by
        rw [World.notBefore_setNotBefore, if_pos hrunning]
      have hfail := failSwapOf_key env (w.setNotBefore key 1000000000000) key hfiled
      change if w.swaps.contains key then _ else _ at hfail
      split at hfail
      · next hswap => exact iff_of_true (.of_gone hfail) (.inr (.inl hswap))
      · next hswap =>
        rw [hfail, World.retriesSoon_iff hlocked]
        exact ⟨fun h => .inr (.inr h), by rintro (h | h | h) <;> [cases h; exact absurd h hswap; exact h]⟩
    · next invoice hsome =>
      -- a task that goes on to wait has not ended
      have hlength := congrArg List.length hends
      change (w.payTasks ++ [PayTask.paying key invoice]).length = _ at hlength
      rw [List.length_append] at hlength
      exact absurd hlength (Nat.succ_ne_self _)

/-- An attempt whose payment raised or failed for good leaves its key as it is unless its swap is in the
table. -/
theorem failSwapOf_frees_iff (now : Nat)
    (hfiled : ∀ k ref, w.swaps.get? k = some ref → k = hex (w.heap ref).paymentHash) :
    (final (failSwapOf env key) w).RetriesSoon now key ↔
      w.RetriesSoon now key ∨ w.swaps.contains key = true := by
  have hfail := failSwapOf_key env w key hfiled
  split at hfail
  · next hswap => exact iff_of_true (.of_gone hfail) (.inr hswap)
  · next hswap =>
    rw [hfail]
    exact ⟨.inl, fun h => h.resolve_right hswap⟩

/-- An attempt that has paid takes its key away once the invoice is deleted. -/
theorem paid_frees_iff (invoice : Invoice) (now : Nat) :
    (final (paidLnInvoice env key invoice .paid) w).RetriesSoon now key ↔
      w.RetriesSoon now key ∨ w.invoices.contains key = false ∨
        env.writeFails w.db.calls = false := by
  have hgone : ∀ s, (final (popInvoiceToPay key) s).RetriesSoon now key := fun s =>
    .of_gone ((gone_popInvoiceToPay key (P := fun _ => True)).final trivial)
  show (final (deleteInvoice env key true >>= fun _ => popInvoiceToPay key) w).RetriesSoon now key ↔ _
  cases hstored : w.invoices.contains key with
  | false =>
    have hdelete : deleteInvoice env key true w = .ok ⟨⟩ w := by
      unfold deleteInvoice
      rw [get_bind, hstored]
      rfl
    rw [final_bind_ok hdelete]
    exact iff_of_true (hgone w) (.inr (.inl rfl))
  | true =>
    have hdelete : deleteInvoice env key true w = dbWrite env (w.popInvoice key) := by
      unfold deleteInvoice
      rw [get_bind, hstored]
      rfl
    -- a patch has been recorded, so the write calls the datastore
    have hpop : (w.popInvoice key).db.writes env = true ∧ (w.popInvoice key).db.calls = w.db.calls ∧
        (w.popInvoice key).invoicesToPay = w.invoicesToPay := by
      unfold World.popInvoice
      rw [if_pos hstored]
      exact ⟨Db.writes_of_pending rfl rfl, rfl, rfl⟩
    obtain ⟨hwrites, hcalls, htoPay⟩ := hpop
    rw [dbWrite_run, hwrites, hcalls, Bool.true_and] at hdelete
    cases hfails : env.writeFails w.db.calls with
    | false =>
      rw [hfails, if_neg Bool.false_ne_true] at hdelete
      rw [final_bind_ok hdelete]
      exact iff_of_true (hgone _) (.inr (.inr rfl))
    | true =>
      rw [hfails, if_pos rfl] at hdelete
      rw [final_bind_error hdelete]
      have hsame : (w.popInvoice key).called.notBefore key = w.notBefore key := by
        show ((w.popInvoice key).invoicesToPay.getD ∅).get? key = _
        rw [htoPay]
        rfl
      rw [World.RetriesSoon.congr hsame]
      simp

/-- An attempt that has failed tries again in a minute. -/
theorem retried_soon :
    (final (setInvoiceToPay key (env.now + 60)) w).RetriesSoon env.now key := by
  unfold final
  rw [setInvoiceToPay_run]
  cases hrunning : w.running with
  | true =>
    have hset : (w.setNotBefore key (env.now + 60)).notBefore key = some (env.now + 60) := by
      rw [World.notBefore_setNotBefore, if_pos hrunning]
    exact (World.retriesSoon_iff hset).mpr le_rfl
  | false => exact .of_gone (World.notBefore_stopped hrunning key)

end

/-! ## A step of a task -/

section

variable [Deployment] (env : Env) {w : World} {n : Nat} {task : PayTask}

theorem step_payTask (htask : w.payTasks[n]? = some task) (result : PayResult) :
    step (.payTask env n result) w =
      final (match task with
        | .spawned key => payPendingLnInvoice env key
        | .paying key invoice => paidLnInvoice env key invoice result) (w.without n) := by
  show final (payTaskStep env n result) w = _
  unfold payTaskStep
  refine (final_congr (get_bind _ _)).trans ?_
  rw [htask]
  rfl

omit [Deployment] in
theorem tasks_paidLnInvoice {tasks : List PayTask} {locked : Hex → Prop} {key : Hex}
    (hk : ¬ locked key) (invoice : Invoice) (result : PayResult) :
    Keeps (TasksAre tasks locked) (paidLnInvoice env key invoice result) := by
  cases result with
  | raised => exact tasks_failSwapOf env key
  | failed => exact Keeps.ite (tasks_failSwapOf env key) (tasks_setInvoiceToPay hk _)
  | paid =>
    exact Keeps.bind (tasks_deleteInvoice env _ _) fun _ => tasks_popInvoiceToPay _

/-- A task ends, or goes on to wait for `pay_invoice` under the same key. Either way the other keys keep
their locks. -/
theorem tasks_payTask {locked : Hex → Prop} (htask : w.payTasks[n]? = some task)
    (hk : ¬ locked task.key) (hlocks : ∀ key, locked key → w.Locked key) (result : PayResult) :
    TasksAre (w.payTasks.eraseIdx n) locked (step (.payTask env n result) w) ∨
      ∃ invoice, TasksAre (w.payTasks.eraseIdx n ++ [.paying task.key invoice])
        (fun k => locked k ∨ k = task.key) (step (.payTask env n result) w) := by
  have hwithout : TasksAre (w.payTasks.eraseIdx n) locked (w.without n) := ⟨rfl, hlocks⟩
  rw [step_payTask env htask]
  cases task with
  | spawned key => exact tasks_spawned env (w.without n) key hk hwithout
  | paying key invoice => exact .inl ((tasks_paidLnInvoice env hk invoice result).final hwithout)

/-- **An attempt that ends frees its key** exactly under the condition. -/
theorem ends_frees_iff (htask : w.payTasks[n]? = some task) (result : PayResult)
    (hfiled : ∀ k ref, w.swaps.get? k = some ref → k = hex (w.heap ref).paymentHash)
    (hends : (step (.payTask env n result) w).payTasks = w.payTasks.eraseIdx n) :
    (step (.payTask env n result) w).RetriesSoon env.now task.key ↔ w.Frees env result task := by
  rw [step_payTask env htask] at hends ⊢
  cases task with
  | spawned key => exact spawned_frees_iff env (w.without n) key hfiled hends
  | paying key invoice =>
    cases result with
    | raised => exact failSwapOf_frees_iff env (w.without n) key env.now hfiled
    | paid => exact paid_frees_iff env (w.without n) key invoice env.now
    | failed =>
      show (final (if invoice.hasExpired env then failSwapOf env key
        else setInvoiceToPay key (env.now + 60)) (w.without n)).RetriesSoon env.now key ↔
        w.RetriesSoon env.now key ∨ invoice.hasExpired env = false ∨ w.swaps.contains key = true
      cases hexpired : invoice.hasExpired env with
      | true =>
        rw [if_pos rfl, failSwapOf_frees_iff env (w.without n) key env.now hfiled]
        exact or_congr_right ⟨.inr, fun h => h.resolve_left nofun⟩
      | false =>
        rw [if_neg Bool.false_ne_true]
        exact iff_of_true (retried_soon env (w.without n) key) (.inr (.inl rfl))

/-! ## A request -/

omit [Deployment] in
theorem World.payments_afterWrite (w : World) : (w.afterWrite env).payments = w.payments := by
  unfold World.afterWrite
  split
  · rfl
  · obtain ⟨db, views, hwritten, -⟩ := w.wrote_written env
    rw [hwritten]
    rfl

/-- A request that does not pass every check leaves all keys as they are. -/
theorem payments_refused {invoice : Invoice} (hrefused : ¬ w.Unlocks env invoice) :
    (step (.request env (.addswapinvoice (some invoice))) w).payments = w.payments := by
  have hadd : Triple (· = w) (serverAddSwapInvoice env (some invoice))
      (fun _ s => s.payments = w.payments) (fun _ s => s.payments = w.payments) := by
    refine Triple.conseq (triple_serverAddSwapInvoice env invoice w) (fun _ hs => hs)
      (fun _ _ hunlocks => absurd hunlocks hrefused) fun _ s hs => ?_
    rcases hs with ⟨rfl, -⟩ | ⟨swap, -, -, rfl⟩
    · rfl
    · rw [World.payments_afterWrite, World.payments_setInvoice]
  have hstep : Triple (· = w) (programOf (.request env (.addswapinvoice (some invoice))))
      (fun _ s => s.payments = w.payments) (fun _ s => s.payments = w.payments) := by
    refine Triple.getBind fun s hs => ?_
    split
    · exact hs ▸ hadd
    · exact Triple.pure fun _ h => congrArg World.payments (h.trans hs)
  exact hstep.final rfl

/-! ## Whole runs -/

/-- The preimage of a reverse swap is known from the start. -/
theorem secrets_step {a : Action} (hw : SwapsThroughout SwapData.Revealable w) :
    SwapsThroughout SwapData.Revealable (step a w) := by
  have hsurvives : Survives a w fun w => True ∧ SwapsThroughout SwapData.Revealable w :=
    Survives.trivial.swaps (fun _ hnew hreverse => (hnew.reverse hreverse).2) (fun _ hswap => hswap)
      (fun _ _ _ now f hf swap hswap => hf.revealable hswap) fun _ _ hswap => hswap
  exact (step_invariant hsurvives ⟨True.intro, hw⟩).2

/-- The tasks are for different keys, and the key of an attempt in progress has its lock. -/
structure World.OneEach (w : World) : Prop where
  keys : (w.payTasks.map PayTask.key).Nodup
  locks : ∀ key, w.Attempts key → w.Locked key

namespace World.OneEach

omit [Deployment] in
theorem paysOnce (h : w.OneEach) : w.PaysOnce := by
  intro i j key invoice invoice' hi hj
  have hi' : (w.payTasks.map PayTask.key)[i]? = some key := by rw [List.getElem?_map, hi]; rfl
  have hj' : (w.payTasks.map PayTask.key)[j]? = some key := by rw [List.getElem?_map, hj]; rfl
  obtain ⟨hlt, -⟩ := List.getElem?_eq_some_iff.mp hi'
  exact (List.getElem?_inj hlt h.keys).mp (hi'.trans hj'.symm)

omit [Deployment] in
theorem of_tasksAre {w' : World} (h : w.OneEach) (hw' : TasksAre w.payTasks w.Attempts w') :
    w'.OneEach := by
  have hattempts : ∀ key, w'.Attempts key → w.Attempts key := by
    intro key hkey
    unfold World.Attempts at hkey
    rwa [hw'.tasks] at hkey
  refine ⟨?_, fun key hkey => hw'.locks key (hattempts key hkey)⟩
  rw [hw'.tasks]
  exact h.keys

omit [Deployment] in
/-- A restart leaves no task, or everything as it is. -/
theorem restart (h : w.OneEach) (view : View) : (w.restart env view).OneEach := by
  unfold World.restart
  split
  · exact h
  · refine ⟨List.nodup_nil, fun key hkey => ?_⟩
    obtain ⟨task, htask, -⟩ := hkey
    cases htask

/-- The loop spawns a task for each key that is due, and none of these has one yet: the tasks that there
are wait for `pay_invoice`, so their keys are locked. -/
theorem payPending (h : w.OneEach)
    (hwaits : ∀ task ∈ w.payTasks, task.calls = true ∧ env.now < 1000000000000) :
    (step (.payPending env) w).OneEach := by
  have hdue : ∀ item ∈ (w.invoicesToPay.getD ∅).items, ¬ (env.now < item.2) →
      item.1 ∉ w.payTasks.map PayTask.key := by
    intro item hitem hnow hmem
    obtain ⟨task, htask, hkey⟩ := List.mem_map.mp hmem
    obtain ⟨hcalls, htime⟩ := hwaits task htask
    have hlocked : item.2 = 1000000000000 :=
      h.locks item.1 ⟨task, htask, hcalls, hkey⟩ item.2 (Dict.get?_of_mem hitem)
    exact hnow (hlocked ▸ htime)
  refine ⟨?_, fun key hkey => ?_⟩
  · show ((w.payTasks ++ ((w.invoicesToPay.getD ∅).items.filter fun item =>
      !(env.now < item.2)).map fun item => PayTask.spawned item.1).map PayTask.key).Nodup
    rw [List.map_append, List.map_map]
    refine List.nodup_append.mpr ⟨h.keys, ?_, ?_⟩
    · exact List.Nodup.sublist (List.Sublist.map _ List.filter_sublist) (w.invoicesToPay.getD ∅).nodup
    · intro key hkey key' hkey' heq
      obtain ⟨item, hitem, rfl⟩ := List.mem_map.mp hkey'
      obtain ⟨hmem, hnow⟩ := List.mem_filter.mp hitem
      subst heq
      exact hdue item hmem (by simpa using hnow) hkey
  · -- the tasks that are new are not attempts yet
    obtain ⟨task, htask, hcalls, heq⟩ := hkey
    rcases List.mem_append.mp htask with hold | hnew
    · exact h.locks key ⟨task, hold, hcalls, heq⟩
    · obtain ⟨item, -, rfl⟩ := List.mem_map.mp hnew
      cases hcalls

/-- A task that goes on keeps its key. -/
theorem payTask (h : w.OneEach) (n : Nat) (result : PayResult) :
    (step (.payTask env n result) w).OneEach := by
  cases htask : w.payTasks[n]? with
  | none =>
    have hrun : step (.payTask env n result) w = w := by
      show final (payTaskStep env n result) w = w
      unfold payTaskStep
      refine (final_congr (get_bind _ _)).trans ?_
      rw [htask]
      rfl
    rw [hrun]
    exact h
  | some task =>
    have hkeys : (w.payTasks.map PayTask.key)[n]? = some task.key := by
      rw [List.getElem?_map, htask]
      rfl
    have herase : ((w.payTasks.eraseIdx n).map PayTask.key).Nodup := by
      rw [← List.eraseIdx_map]
      exact List.Nodup.eraseIdx n h.keys
    -- the others are for other keys
    have hother : task.key ∉ (w.payTasks.eraseIdx n).map PayTask.key := by
      intro hmem
      rw [← List.eraseIdx_map] at hmem
      obtain ⟨i, hne, hi⟩ := List.mem_eraseIdx_iff_getElem?.mp hmem
      obtain ⟨hlt, -⟩ := List.getElem?_eq_some_iff.mp hi
      exact hne ((List.getElem?_inj hlt h.keys).mp (hi.trans hkeys.symm))
    have hlocked : ¬ (w.without n).Attempts task.key := by
      rintro ⟨other, hmem, -, heq⟩
      exact hother (List.mem_map.mpr ⟨other, hmem, heq⟩)
    have hlocks : ∀ key, (w.without n).Attempts key → w.Locked key := by
      rintro key ⟨other, hmem, hcalls, heq⟩
      exact h.locks key ⟨other, List.mem_of_mem_eraseIdx hmem, hcalls, heq⟩
    rcases tasks_payTask env htask hlocked hlocks result with hends | ⟨invoice, hwaits⟩
    · refine ⟨hends.tasks ▸ herase, fun key hkey => hends.locks key ?_⟩
      unfold World.Attempts at hkey
      rwa [hends.tasks] at hkey
    · refine ⟨?_, fun key hkey => hwaits.locks key ?_⟩
      · rw [hwaits.tasks, List.map_append]
        refine List.nodup_append.mpr ⟨herase, List.nodup_singleton _, fun key hkey key' hkey' heq => ?_⟩
        cases List.mem_singleton.mp hkey'
        exact hother (heq ▸ hkey)
      · obtain ⟨other, hmem, hcalls, heq⟩ := hkey
        rw [hwaits.tasks] at hmem
        rcases List.mem_append.mp hmem with hold | hnew
        · exact .inl ⟨other, hold, hcalls, heq⟩
        · cases List.mem_singleton.mp hnew
          exact .inr heq.symm

/-- Every other step leaves the tasks and the locks of the attempts, a request by the condition on it. -/
theorem idle {a : Action} (h : w.OneEach) (ha : ¬ a.Pays) (hguard : Guarded w a)
    (hsecrets : SwapsThroughout SwapData.Revealable w) : (step a w).OneEach := by
  have hself : TasksAre w.payTasks w.Attempts w := ⟨rfl, h.locks⟩
  cases hqueues : a.queues? with
  | none =>
    refine h.of_tasksAre (tasks_step ha (fun key hkey => ?_) hsecrets hself)
    rw [hqueues] at hkey
    cases hkey
  | some key =>
    obtain ⟨env, invoice, rfl⟩ : ∃ env invoice, a = .request env (.addswapinvoice (some invoice)) := by
      unfold Action.queues? at hqueues
      split at hqueues
      · exact ⟨_, _, rfl⟩
      · cases hqueues
    by_cases hunlocks : w.Unlocks env invoice
    · refine h.of_tasksAre (tasks_step ha (fun key' hkey' => ?_) hsecrets hself)
      cases hkey'
      exact hguard hunlocks
    · exact h.of_tasksAre (hself.congr (payments_refused env hunlocks))

end World.OneEach

theorem World.OneEach.step {a : Action} (hguard : Guarded w a)
    (hsecrets : SwapsThroughout SwapData.Revealable w) (hw : w.OneEach) : (step a w).OneEach := by
  cases a with
  | payPending env => exact hw.payPending env hguard
  | payTask env n result => exact hw.payTask env n result
  | reload env => exact hw.restart env _
  | crash env n =>
    show (w.crash env n).OneEach
    unfold World.crash
    split
    · exact hw
    · exact hw.restart env _
  | _ => exact hw.idle (fun hpays => hpays) hguard hsecrets

theorem oneEach (h : Reachable Guarded w) : w.OneEach := by
  have hstart : World.start.OneEach := by
    refine ⟨List.nodup_nil, fun key hkey => ?_⟩
    obtain ⟨task, htask, -⟩ := hkey
    cases htask
  have hinv : SwapsThroughout SwapData.Revealable w ∧ w.OneEach := by
    refine Run.invariant (I := fun w => SwapsThroughout SwapData.Revealable w ∧ w.OneEach) (fun w a hguard hw => ?_) h ⟨SwapsThroughout.start, hstart⟩
    exact ⟨secrets_step hw.1, hw.2.step hguard hw.1⟩
  exact hinv.2

/-- **At most one payment attempt for each swap, and no key stays locked**, for the runs in which no client
sends the invoice of a running attempt again: a call of `pay_invoice` is the only one for its key, and an
attempt that ends leaves its key free exactly under the condition. -/
theorem one_attempt (h : Reachable Guarded w) :
    w.PaysOnce ∧
      ∀ env n result task, w.payTasks[n]? = some task →
        (step (.payTask env n result) w).payTasks = w.payTasks.eraseIdx n →
        ((step (.payTask env n result) w).RetriesSoon env.now task.key ↔ w.Frees env result task) := by
  refine ⟨(oneEach h).paysOnce, fun env n result task htask hends => ?_⟩
  exact ends_frees_iff env htask result (fun k ref href => ((swaps_filed h).table k ref href).2) hends

/-! ## What the condition leaves out -/

/-- A request that passes every check stores its invoice and makes its key due. -/
theorem unlocked {invoice : Invoice} (hunlocks : w.Unlocks env invoice) :
    (step (.request env (.addswapinvoice (some invoice))) w).payTasks = w.payTasks ∧
      (step (.request env (.addswapinvoice (some invoice))) w).notBefore (hex invoice.rhash) = some 0 ∧
      (step (.request env (.addswapinvoice (some invoice))) w).invoices.contains (hex invoice.rhash)
        = true := by
  obtain ⟨swap, hsaved, haccepted⟩ := hunlocks
  obtain ⟨preimage, hpreimage, hhash⟩ := haccepted.preimage
  let t := (w.setInvoice (hex invoice.rhash) invoice).afterWrite env
  have hpayments : t.payments = w.payments := by
    rw [World.payments_afterWrite, World.payments_setInvoice]
  have hrunning : t.running = true := by
    show t.payments.2.isSome = true
    rw [hpayments]
    exact haccepted.running
  have hrun : serverAddSwapInvoice env (some invoice) w
      = .ok ⟨⟩ (t.setNotBefore (hex invoice.rhash) 0) := by
    have hsave := saveInvoice_run env invoice w
    rw [haccepted.write, if_neg Bool.false_ne_true] at hsave
    unfold serverAddSwapInvoice
    rw [orRaise_some, pure_bind, get_bind]
    simp only [hsaved.found, hsaved.amount, orRaise_some, pure_bind, decide_true, pyAssert_true]
    rw [bind_ok hsave, hpreimage, orRaise_some, pure_bind, decide_eq_true hhash, pyAssert_true,
      pure_bind, haccepted.unspent, Option.isNone_none, pyAssert_true, pure_bind, setInvoiceToPay_run]
    exact if_pos hrunning
  have hstep : step (.request env (.addswapinvoice (some invoice))) w
      = t.setNotBefore (hex invoice.rhash) 0 := by
    show final (atStage World.running (serverAddSwapInvoice env (some invoice))) w = _
    unfold atStage
    refine (final_congr (get_bind _ _)).trans ?_
    rw [haccepted.running, if_pos rfl]
    unfold final
    rw [hrun]
  rw [hstep]
  refine ⟨congrArg Prod.fst hpayments, ?_, ?_⟩
  · rw [World.notBefore_setNotBefore, if_pos hrunning]
  · show t.invoices.contains (hex invoice.rhash) = true
    rw [(World.afterWrite_tables env _).1]
    unfold World.setInvoice
    split
    · next hstored =>
      unfold Dict.contains
      rw [hstored]
      rfl
    · unfold Dict.contains
      rw [Dict.get?_set_self]
      rfl

/-- Where a lock does not stand, the loop starts a second attempt: its first step calls `pay_invoice` a
second time. -/
theorem due_attempt {i : Nat} {key : Hex} {invoice stored : Invoice} {not_before : Nat}
    (htask : w.payTasks[i]? = some (.paying key invoice)) (hdue : w.notBefore key = some not_before)
    (hnow : not_before ≤ env.now) (hstored : w.invoices.get? key = some stored) :
    ∃ n, ∀ env' result, ¬ (step (.payTask env' n result) (step (.payPending env) w)).PaysOnce := by
  obtain ⟨due, hdueTasks, hmem⟩ : ∃ due, (step (.payPending env) w).payTasks = w.payTasks ++ due ∧
      PayTask.spawned key ∈ due := by
    refine ⟨_, rfl, List.mem_map.mpr ⟨(key, not_before), List.mem_filter.mpr ⟨?_, ?_⟩, rfl⟩⟩
    · exact Dict.mem_of_get? hdue
    · simpa using hnow
  obtain ⟨j, hj⟩ := List.mem_iff_getElem?.mp hmem
  have hi : i < w.payTasks.length := (List.getElem?_eq_some_iff.mp htask).1
  have hspawned : (step (.payPending env) w).payTasks[w.payTasks.length + j]?
      = some (.spawned key) := by
    rw [hdueTasks, List.getElem?_append_right (Nat.le_add_right _ _), Nat.add_sub_cancel_left, hj]
  refine ⟨w.payTasks.length + j, fun env' result honce => ?_⟩
  have hrunning : w.running = true := by
    cases hrunning : w.running with
    | true => rfl
    | false =>
      rw [World.notBefore_stopped hrunning] at hdue
      cases hdue
  -- the task that has been spawned finds the invoice and waits, too
  have hwaits : (step (.payTask env' (w.payTasks.length + j) result)
        (step (.payPending env) w)).payTasks
      = (w.payTasks ++ due).eraseIdx (w.payTasks.length + j) ++ [.paying key stored] := by
    rw [step_payTask env' hspawned, ← hdueTasks]
    show (final (payPendingLnInvoice env' key) _).payTasks = _
    rw [payPendingLnInvoice_final]
    have hrunning' : ((step (.payPending env) w).without (w.payTasks.length + j)).running = true :=
      hrunning
    have hstored' : ((step (.payPending env) w).without (w.payTasks.length + j)).invoices.get? key
        = some stored := hstored
    rw [if_pos hrunning', hstored']
    rfl
  have hjlt : w.payTasks.length + j < (w.payTasks ++ due).length := by
    rw [List.length_append]
    exact Nat.add_lt_add_left (List.getElem?_eq_some_iff.mp hj).1 _
  have hlength : i < ((w.payTasks ++ due).eraseIdx (w.payTasks.length + j)).length := by
    rw [List.length_eraseIdx_of_lt hjlt]
    omega
  have hfirst : (step (.payTask env' (w.payTasks.length + j) result)
      (step (.payPending env) w)).payTasks[i]? = some (.paying key invoice) := by
    rw [hwaits, List.getElem?_append_left hlength, List.getElem?_eraseIdx_of_lt (by omega),
      List.getElem?_append_left hi, htask]
  have hsecond : (step (.payTask env' (w.payTasks.length + j) result)
      (step (.payPending env) w)).payTasks[((w.payTasks ++ due).eraseIdx
        (w.payTasks.length + j)).length]? = some (.paying key stored) := by
    rw [hwaits, List.getElem?_append_right le_rfl, Nat.sub_self]
    rfl
  exact Nat.ne_of_lt hlength (honce _ _ _ _ _ hfirst hsecond)

/-- **A request for the invoice of a running attempt leads to a second one**: the loop wakes up, and the
first step of the task it spawns calls `pay_invoice` a second time. -/
theorem second_attempt {sent : Invoice} (hunlocks : w.Unlocks env sent)
    (hattempts : w.Attempts (hex sent.rhash)) (env' : Env) :
    ∃ n, ∀ env'' result, ¬ (step (.payTask env'' n result) (step (.payPending env')
      (step (.request env (.addswapinvoice (some sent))) w))).PaysOnce := by
  obtain ⟨htasks, hdue, hstored⟩ := unlocked env hunlocks
  obtain ⟨task, hmem, hcalls, hkey⟩ := hattempts
  obtain ⟨i, hi⟩ := List.mem_iff_getElem?.mp hmem
  obtain ⟨stored, hget⟩ := Option.isSome_iff_exists.mp hstored
  cases task with
  | spawned key => cases hcalls
  | paying key invoice =>
    subst hkey
    rw [← htasks] at hi
    exact due_attempt env' hi hdue (Nat.zero_le _) hget

end

deriving instance DecidableEq for PayTask

/-! ## A run -/

section

variable [Deployment]

instance (env : Env) (invoice : Invoice) (swap : SwapData) (w : World) :
    Decidable (Accepted env invoice swap w) :=
  decidable_of_iff (((w.setInvoice (hex invoice.rhash) invoice).db.writes env &&
      env.writeFails w.db.calls) = false ∧ (∃ preimage ∈ swap.preimage, sha256 preimage = invoice.rhash) ∧
      swap.spendingTxid = none ∧ w.running = true)
    ⟨fun h => ⟨h.1, h.2.1, h.2.2.1, h.2.2.2⟩, fun h => ⟨h.write, h.preimage, h.unspent, h.running⟩⟩

instance (w : World) (env : Env) (invoice : Invoice) : Decidable (w.Unlocks env invoice) :=
  decidable_of_iff (∃ swap ∈ w.swap? (hex invoice.rhash),
      invoice.amountSat = some swap.lightningAmount ∧ Accepted env invoice swap w)
    ⟨fun h => h.elim fun swap hs => ⟨swap, ⟨hs.1, hs.2.1⟩, hs.2.2⟩,
      fun h => h.elim fun swap hs => ⟨swap, hs.1.found, hs.1.amount, hs.2⟩⟩

instance (w : World) (key : Hex) : Decidable (w.Attempts key) :=
  inferInstanceAs (Decidable (∃ task ∈ w.payTasks, task.calls = true ∧ task.key = key))

instance (w : World) : ∀ a, Decidable (Guarded w a)
  | .request env (.addswapinvoice (some invoice)) =>
    inferInstanceAs (Decidable (w.Unlocks env invoice → ¬ w.Attempts (hex invoice.rhash)))
  | .payPending env =>
    inferInstanceAs (Decidable (∀ task ∈ w.payTasks, task.calls = true ∧ env.now < 1000000000000))
  | .request _ (.addswapinvoice none) | .request _ (.createswap _ _ _ _ _)
  | .request _ (.createnormalswap _ _) | .request _ (.unknown _) | .htlc _ _ _ _ | .expiry _ | .callbacks _
  | .claim _ _ | .updatePairs _ | .rehash _ _ | .payTask _ _ _ | .reload _ | .crash _ _ | .initSwapManager
  | .mainLoop => .isTrue trivial

end

section Sample

open Sample

attribute [local instance] Sample.deployment

/-- The plugin pays the invoice of a client. -/
private def paying : World := runOf payingRun World.start

theorem one_attempt_paying :
    paying.PaysOnce ∧
      ((step (.payTask Sample.env 0 .failed) paying).RetriesSoon Sample.env.now (hex otherHash) ↔
        paying.Frees Sample.env .failed (.paying (hex otherHash) clientInvoice)) :=
  have hreach : Reachable Guarded paying := Run.of_allows .refl (by decide +kernel)
  ⟨(one_attempt hreach).1, (one_attempt hreach).2 Sample.env 0 .failed
    (.paying (hex otherHash) clientInvoice) (by decide +kernel) (by decide +kernel)⟩

/-- While the invoice of a client is paid the client sends it once more. -/
def twiceRun : List Action :=
  payingRun ++ [.request Sample.env (.addswapinvoice (some clientInvoice)), .payPending Sample.env,
    .payTask Sample.env 1 .raised]

/-- Two attempts wait for the payment of one invoice. -/
theorem two_attempts : ∃ w, Reachable (fun _ _ => True) w ∧ ¬ w.PaysOnce := by
  refine ⟨runOf twiceRun World.start, reachable_runOf _, fun h => ?_⟩
  have h01 : 0 = 1 := h 0 1 (hex otherHash) clientInvoice clientInvoice (by decide +kernel)
    (by decide +kernel)
  cases h01

end Sample

end SubswapProvider
