import SubswapProvider.ClaimSwap

/-!
# The plugin as a transition system

A step is one thing the process does from a point where it waits: one request, one HTLC offered by
lightningd, one pass of a monitoring loop, one callback of the chain monitor, or one stage of a
restart. What the step finds outside comes with it, as an `Env`. A step that raises is a step: the
loop or the hook around it goes on.

Python promises no order for the elements of a set, so a step of its own (`rehash`) may change the
order in which the HTLCs of an invoice are iterated.
-/

namespace SubswapProvider

open Deployment Effect

variable [Deployment]

inductive Action
  | request (env : Env) (request : ClientRequest)
  | htlc (env : Env) (forward : Bool) (payment_secret : Option Bytes) (request : Request)
  | expiry (env : Env)
  | callbacks (env : Env)
  | claim (env : Env) (address : Address)
  | updatePairs (env : Env)
  | rehash (k : Hex) (order : List Htlc)
  /-- `pay_pending_ln_invoices` wakes up. -/
  | payPending (env : Env)
  /-- The `n`-th task of `pay_pending_ln_invoice` goes on; `result` is for one that waits. -/
  | payTask (env : Env) (n : Nat) (result : PayResult)
  /-- The process ends, and `CLNLightning` starts from the datastore. -/
  | reload (env : Env)
  /-- The same for a process that ends within its last step. -/
  | crash (env : Env) (n : Nat)
  /-- `SwapManager.__init__`. -/
  | initSwapManager
  /-- `SwapManager.main_loop`, up to its tasks. -/
  | mainLoop

/-- `CLNStorage`, `JsonDB` and `CLNLightning` of a new process, after one that ended as `view` says.
A store that does not load ends the new process at once. -/
def World.restart (env : Env) (view : View) (w : World) : World :=
  match view.db.load with
  | none => w
  | some d => {
      preimages := d.preimages
      invoices := d.invoices
      holdInvoices := d.holdInvoices
      swaps := d.swaps.enumerate
      heap := fun ref =>
        match d.swaps.items[ref]? with
        | some (k, swap) => { swap with paymentHash := k.bytes, db := true }
        | none => w.heap ref
      nextRef := d.swaps.items.length
      holdInvoiceCallbacks := ∅
      lnwatcherCallbacks := ∅
      invoicesToPay := none
      payTasks := []
      managed := false
      pairs := none
      db := { view.db with
        queued := view.db.disk
        pending := view.db.blank
        modified := view.db.blank || env.hasPatches }
      trace := view.said
      views := [view] }

/-- The process ends while it waits. -/
def World.reload (env : Env) (w : World) : World := w.restart env ⟨w.db, w.trace⟩

/-- The process ends in the middle of its last step, at one of the points it went through. -/
def World.crash (env : Env) (n : Nat) (w : World) : World :=
  match w.views[n]? with
  | none => w
  | some view => w.restart env view

/-- The loop of `SwapManager.__init__` over the stored swaps. -/
def initSwapManager : PyM Unit := do
  let w ← get
  w.swaps.items.forM fun item => do
    let w ← get
    let swap := w.heap item.2
    if !swap.isReverse && !swap.isRedeemed then
      if (w.holdInvoices.get? item.1).isSome then
        registerHoldInvoiceCallback item.1 .holdInvoiceCallback
      else modify (World.popSwap item.1)
    else pure ()

/-- `main_loop`: watch every swap that is not redeemed, and start `pay_pending_ln_invoices`. -/
def mainLoop : PyM Unit := do
  let w ← get
  w.swaps.items.forM fun item =>
    if (w.heap item.2).isRedeemed then pure () else addLnwatcherCallback item.2
  modify fun w => { w with invoicesToPay := some ∅ }

/-- The callback of the chain monitor for an address. -/
def claimAddress (env : Env) (address : Address) : PyM Unit := do
  let w ← get
  match w.lnwatcherCallbacks.get? address with
  | some ref => claimSwap env ref
  | none => pure ()

/-- A step the process only takes at some stage of its start. -/
def atStage (stage : World → Bool) (p : PyM Unit) : PyM Unit := do
  let w ← get
  if stage w then p else pure ()

/-- What a step runs. -/
def programOf : Action → PyM Unit
  | .request env r => atStage World.running (handleRequest env r)
  | .htlc env forward payment_secret r => pluginHtlcAcceptedHook env forward payment_secret r
  | .expiry env => monitorExpiries env
  | .callbacks env => callbackHandler env (callOf env)
  | .claim env address => claimAddress env address
  | .updatePairs env => serverUpdatePairs env
  | .rehash k order => modify (World.mutHoldInvoice k (·.reorderHtlcs order) fun _ => rfl)
  | .payPending env => payPendingLnInvoices env
  | .payTask env n result => payTaskStep env n result
  | .reload env => modify (World.reload env)
  | .crash env n => modify (World.crash env n)
  | .initSwapManager => atStage (fun w => !w.managed) (do
      initSwapManager
      modify fun w => { w with managed := true })
  | .mainLoop => atStage (fun w => w.managed && !w.running) mainLoop

def step (a : Action) (w : World) : World := final (programOf a) w

/-- The process ends. -/
def Action.Restarts : Action → Prop
  | .reload _ => True
  | .crash _ _ => True
  | _ => False

/-- The store of a process that has just started on an empty datastore. -/
def Db.start : Db where
  disk := some { preimages := ∅, invoices := ∅, holdInvoices := ∅, swaps := ∅ }
  queued := some { preimages := ∅, invoices := ∅, holdInvoices := ∅, swaps := ∅ }
  blank := true
  headless := false
  pending := true
  modified := true
  calls := 0

/-- A process that has just started on an empty datastore. -/
def World.start : World where
  preimages := ∅
  invoices := ∅
  holdInvoices := ∅
  swaps := ∅
  heap _ := {
    isReverse := false, locktime := 0, onchainAmount := none, lightningAmount := 0,
    redeemScript := [], preimage := none, prepayHash := none, privkey := [], lockupAddress := "",
    receiveAddress := "", fundingTxid := none, spendingTxid := none, isRedeemed := false,
    paymentHash := [], db := false }
  nextRef := 0
  holdInvoiceCallbacks := ∅
  lnwatcherCallbacks := ∅
  invoicesToPay := none
  payTasks := []
  managed := false
  pairs := none
  db := Db.start
  trace := []
  views := [⟨Db.start, []⟩]

/-- `w` is reached from an empty datastore by steps whose states and actions satisfy `ok`. -/
def Reachable (ok : World → Action → Prop) (w : World) : Prop := Run step ok World.start w

/-- The state after some actions, the first of the list first. -/
def runOf (actions : List Action) (w : World) : World := actions.foldl (fun w a => step a w) w

/-- Each of the actions is allowed in the state it meets. -/
def AllowedRun (ok : World → Action → Prop) : World → List Action → Prop
  | _, [] => True
  | w, a :: actions => ok w a ∧ AllowedRun ok (step a w) actions

theorem AllowedRun.last {ok : World → Action → Prop} {actions : List Action} {a : Action} {w : World}
    (h : AllowedRun ok w (actions ++ [a])) : ok (runOf actions w) a := by
  induction actions generalizing w with
  | nil => exact h.1
  | cons b actions ih => exact ih h.2

theorem AllowedRun.init {ok : World → Action → Prop} {actions : List Action} {a : Action} {w : World}
    (h : AllowedRun ok w (actions ++ [a])) : AllowedRun ok w actions := by
  induction actions generalizing w with
  | nil => trivial
  | cons b actions ih => exact ⟨h.1, ih h.2⟩

theorem reachable_of_allowedRun {ok : World → Action → Prop} {actions : List Action}
    (h : AllowedRun ok World.start actions) : Reachable ok (runOf actions World.start) := by
  have hrun : ∀ actions w, Run step ok World.start w → AllowedRun ok w actions →
      Run step ok World.start (runOf actions w) := by
    intro actions
    induction actions with
    | nil => exact fun w hw _ => hw
    | cons a actions ih => exact fun w hw ha => ih (step a w) (hw.snoc a ha.1) ha.2
  exact hrun actions World.start .refl h

theorem reachable_runOf (actions : List Action) :
    Reachable (fun _ _ => True) (runOf actions World.start) := by
  have hallowed : ∀ actions w, AllowedRun (fun _ _ => True) w actions := by
    intro actions
    induction actions with
    | nil => exact fun _ => trivial
    | cons a actions ih => exact fun w => ⟨trivial, ih (step a w)⟩
  exact reachable_of_allowedRun (hallowed actions World.start)

/-! ## The blocks of a run -/

/-- The surroundings a step finds. -/
def Action.env? : Action → Option Env
  | .request env _ => some env
  | .htlc env _ _ _ => some env
  | .expiry env => some env
  | .callbacks env => some env
  | .claim env _ => some env
  | .updatePairs env => some env
  | .rehash _ _ => none
  | .payPending env => some env
  | .payTask env _ _ => some env
  | .reload env => some env
  | .crash env _ => some env
  | .initSwapManager => none
  | .mainLoop => none

/-- Whoever asks for the block height in this step gets `height`, or no answer. -/
def AtHeight (height : Nat) (a : Action) : Prop :=
  ∀ env, a.env? = some env → ∀ n, env.localHeight = some n → n = height

instance (height : Nat) (a : Action) : Decidable (AtHeight height a) :=
  decidable_of_iff ((a.env?.bind Env.localHeight).all (· = height) = true) (by
    unfold AtHeight
    cases a.env? with
    | none => simp
    | some env => cases h : env.localHeight <;> simp [h])

/-- Steps with the block heights they are taken at, which do not decrease. -/
structure Blocks (run : List (Nat × Action)) : Prop where
  heights : ∀ x ∈ run, AtHeight x.1 x.2
  mono : (run.map Prod.fst).Pairwise (· ≤ ·)

/-- The state after the steps of such a run. -/
def afterBlocks (run : List (Nat × Action)) : World := runOf (run.map Prod.snd) World.start

/-! ## The payment hashes of a run -/

/-- A `createswap` brings two payment hashes: the client's, and that of the mining fees. -/
def Action.pair? : Action → Option (Bytes × Bytes)
  | .request env (.createswap _ _ _ preimageHash _) => some (preimageHash, sha256 env.urandomPreimage)
  | _ => none

/-- A `createnormalswap` brings one. -/
def Action.reverseHash? : Action → Option Bytes
  | .request env (.createnormalswap _ _) => some (sha256 env.urandomPreimage)
  | _ => none

/-- The payment hashes a step brings into the run. -/
def Action.hashes (a : Action) : List Bytes :=
  (a.pair?.elim [] fun p => [p.1, p.2]) ++ a.reverseHash?.toList

/-- The payment hashes of the run are pairwise distinct. -/
def DistinctHashes (actions : List Action) : Prop := (actions.flatMap Action.hashes).Nodup

instance (actions : List Action) : Decidable (DistinctHashes actions) :=
  inferInstanceAs (Decidable (List.Nodup _))

theorem runOf_append (actions : List Action) (a : Action) (w : World) :
    runOf (actions ++ [a]) w = step a (runOf actions w) := by
  unfold runOf
  rw [List.foldl_append]
  rfl

/-- **Induction over a run with distinct payment hashes**: `I` may speak of the actions so far. -/
theorem runOf_induction {I : List Action → World → Prop} (hstart : I [] World.start)
    (hstep : ∀ past a w, w = runOf past World.start → DistinctHashes (past ++ [a]) → I past w →
      I (past ++ [a]) (step a w))
    (actions : List Action) (h : DistinctHashes actions) : I actions (runOf actions World.start) := by
  induction actions using List.reverseRecOn with
  | nil => exact hstart
  | append_singleton past a ih =>
    have hpast : DistinctHashes past := by
      unfold DistinctHashes at h ⊢
      rw [List.flatMap_append] at h
      exact (List.nodup_append.mp h).1
    rw [runOf_append]
    exact hstep past a _ rfl h (ih hpast)

/-! ## A deployment to try the model on

One client with one preimage, a fee of one satoshi per virtual byte, and surroundings that answer
every call. The log level is `DEBUG`, so every write replaces the content of the store. -/

namespace Sample

def preimage : Bytes := (List.range 32).map UInt8.ofNat

/-- The SHA-256 of `preimage`. -/
def paymentHash : Bytes := [
  99, 13, 205, 41, 102, 196, 51, 102, 145, 18, 84, 72, 187, 178, 91, 79,
  244, 18, 164, 156, 115, 45, 178, 200, 171, 193, 184, 88, 27, 215, 16, 221]

def prepayPreimage : Bytes := (List.range 32).map fun i => UInt8.ofNat (32 + i)

/-- The SHA-256 of `prepayPreimage`. -/
def prepayHash : Bytes := [
  114, 219, 183, 51, 108, 118, 120, 0, 35, 248, 61, 164, 195, 85, 242, 238,
  234, 133, 115, 59, 19, 211, 71, 118, 151, 145, 119, 144, 193, 34, 144, 132]

def otherPreimage : Bytes := (List.range 32).map fun i => UInt8.ofNat (64 + i)

/-- The SHA-256 of `otherPreimage`. -/
def otherHash : Bytes := [
  202, 42, 79, 231, 39, 250, 174, 207, 22, 236, 209, 48, 168, 110, 8, 133,
  197, 84, 12, 5, 55, 83, 64, 68, 80, 113, 192, 101, 117, 85, 253, 66]

@[reducible] def deployment : Deployment where
  config := {
    swapserverFeeMillionths := 10000
    confirmationSpeedTargetBlocks := 10
    fallbackFeeSatPerVb := 60
    paymentSecretKey := List.replicate 32 5 }
  sha256 b :=
    if b = preimage then paymentHash
    else if b = prepayPreimage then prepayHash
    else if b = otherPreimage then otherHash
    else []
  ripemd _ := List.replicate 20 3
  publicKey _ := 2 :: List.replicate 32 4
  scriptToP2wsh _ := "bcrt1qlockup"
  txid _ _ _ _ := List.replicate 32 8
  signTxin _ _ _ _ _ := List.replicate 71 9

def env : Env where
  timeNs := 1700000000 * 1000000000
  localHeight := some 900000
  feerates := some [(6, 1000)]
  listinvoices _ := some 0
  signinvoice lnaddr := some lnaddr.description
  decodepay _ := some { minFinalCltvExpiry := 147, paymentSecret := some (List.replicate 32 6) }
  urandomPrivkey := List.replicate 32 1
  urandomPreimage := prepayPreimage
  newaddr := some "bcrt1qreceive"
  importdescriptors _ := true
  channels := some [{ connected := true, amountMsat := 2000000000, ourAmountMsat := 1000000000 }]
  outputs := some [{ confirmed := true, reserved := false, amountMsat := 10000000000 }]
  fundpsbt := some {("bcrt1qchange", 48000)}
  signpsbt := some (List.replicate 32 7)
  sendpsbt := true
  isUpToDate := some true
  addrOutputs _ := some []
  confirmations _ := some 1
  transaction _ := some none
  sendrawtransaction := true
  consolidates _ := true
  writeFails _ := false
  hasPatches := false

/-- A `createswap` for the client's hash. -/
def createswap (invoiceAmount : Int) : ClientRequest :=
  .createswap "reversesubmarine" "BTC/BTC" invoiceAmount paymentHash (3 :: List.replicate 32 4)

/-- The `n`-th hook call: an HTLC for a payment hash. -/
def htlcFor (n : Nat) (payment_hash : Bytes) (amount_msat : Nat) : Request where
  serial := n
  htlc := {
    paymentHash := payment_hash
    shortChannelId := "900000x1x0"
    id := n
    amountMsat := amount_msat
    cltvExpiryRelative := 150 }

/-- The hook call, with the payment secret of the invoice. -/
def deliver (n : Nat) (payment_hash : Bytes) (amount_msat : Nat) : Action :=
  .htlc env false (some (List.replicate 32 6)) (htlcFor n payment_hash amount_msat)

/-- An output of the lockup address, unspent. -/
def lockupOutput : PartialTxInput where
  prevout := ⟨List.replicate 32 7, 0⟩
  valueSats := 1000000
  spentHeight := none
  spentTxid := none

/-- The process as it runs once it is up. -/
def boot : List Action := [.initSwapManager, .mainLoop, .updatePairs env]

/-- The client has a swap of 50000 sat and has paid both of its invoices, and the plugin has funded
the lockup address. -/
def fundedRun : List Action :=
  boot ++ [.request env (createswap 50000), deliver 1 paymentHash 49728000,
    deliver 2 prepayHash 272000, .callbacks env]

/-- The lockup output, spent in the block at a height. -/
def spentOutput (spent_height : Nat) : PartialTxInput :=
  { lockupOutput with
    spentHeight := some spent_height, spentTxid := some (List.replicate 32 10) }

/-- The lockup output has been spent by a transaction with these witnesses. -/
def spentEnv (spent_height : Nat) (witnesses : List (Option Bytes)) : Env :=
  { env with
    addrOutputs := fun _ => some [spentOutput spent_height]
    transaction := fun _ => some (some { witnesses, outputValues := [] }) }

end Sample

end SubswapProvider
