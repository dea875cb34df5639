import SubswapProvider.Wallet
import SubswapProvider.Library.Drain

/-!
# What the search for spent outputs finds

`_fetch_spent_utxos` reads the entries of the wallet until what it has found is worth what has been spent
(`fetchSpentUtxos_eq`), and `get_addr_outputs` puts this behind what is unspent (`getAddrOutputs_eq`).
-/

namespace SubswapProvider

open Drain

/-- An output that has been spent, with its spender's txid and height. -/
structure Spend where
  coin : Coin
  txid : Txid
  blockheight : Option Nat
  deriving DecidableEq

def Spend.value (s : Spend) : Nat := s.coin.output.value

/-- What `_fetch_spent_utxos` makes of it. -/
def Spend.txin (s : Spend) : PartialTxInput where
  prevout := s.coin.prevout
  valueSats := s.coin.output.value * COIN
  spentHeight := some (s.blockheight.getD 0)
  spentTxid := some s.txid

/-- What `listunspent` is read as. -/
def Coin.txin (c : Coin) : PartialTxInput where
  prevout := c.prevout
  valueSats := c.output.value
  spentHeight := none
  spentTxid := none

namespace Wallet

variable (w : Wallet) {address : Address} {t : WalletTx} {c : Coin} {prevout : TxOutpoint}

/-- The output at an outpoint, if its transaction is in the chain or the mempool. -/
def paid? (prevout : TxOutpoint) : Option TxOutput :=
  ((w.walletTx? prevout.txid).filter WalletTx.live).bind fun t => t.outputs[prevout.outIdx]?

/-- The output of `address` at an outpoint. -/
def coinOf (address : Address) (prevout : TxOutpoint) : Option Coin :=
  ((w.paid? prevout).filter fun output => output.address = address).map fun output =>
    ⟨prevout, output⟩

/-- What a transaction takes from an address. -/
def spends (address : Address) (t : WalletTx) : List Spend :=
  (t.inputs.filterMap (w.coinOf address)).map fun c => ⟨c, t.txid, t.blockheight⟩

/-- What it spends, that is, unless it has been displaced. -/
def spent (address : Address) (t : WalletTx) : List Spend :=
  if t.live then w.spends address t else []

/-! ## Outputs and their spenders -/

variable {w}

theorem indexed_of_live (h : t.live = true) : t.indexed = true := by
  have hstanding : t.standing = .live := of_decide_eq_true h
  unfold WalletTx.indexed
  rw [hstanding]

theorem walletTx_of_mem (h : t ∈ w.txs) : w.walletTx? t.txid = some t := by
  unfold walletTx?
  have hsome : (w.txs.find? fun t' => t'.txid = t.txid).isSome := by
    rw [List.find?_isSome]
    exact ⟨t, h, by simp⟩
  obtain ⟨t', ht'⟩ := Option.isSome_iff_exists.mp hsome
  have hmem := List.mem_of_find?_eq_some ht'
  have htxid : t'.txid = t.txid := by simpa using List.find?_some ht'
  rw [ht', List.inj_on_of_nodup_map w.txids_nodup hmem h htxid]

theorem mem_of_walletTx {txid : Txid} (h : w.walletTx? txid = some t) : t ∈ w.txs ∧ t.txid = txid :=
  ⟨List.mem_of_find?_eq_some h, by simpa using List.find?_some h⟩

theorem getTransaction_of_mem (h : t ∈ w.txs) :
    w.getTransaction t.txid = if t.indexed then some t else none := by
  unfold getTransaction
  rw [walletTx_of_mem h, Option.filter_some]

theorem mem_coins : c ∈ t.coins ↔ c.prevout.txid = t.txid ∧
    t.outputs[c.prevout.outIdx]? = some c.output := by
  obtain ⟨⟨txid, i⟩, output⟩ := c
  unfold WalletTx.coins
  simp only [List.mem_map, Prod.exists, List.mem_zipIdx_iff_getElem?]
  constructor
  · rintro ⟨output', i', hget, heq⟩
    cases heq
    exact ⟨rfl, hget⟩
  · rintro ⟨rfl, hget⟩
    exact ⟨output, i, hget, rfl⟩

theorem paid_eq_some {output : TxOutput} : w.paid? prevout = some output ↔
    ∃ t ∈ w.txs, t.live = true ∧ t.txid = prevout.txid ∧
      t.outputs[prevout.outIdx]? = some output := by
  unfold paid?
  rw [Option.bind_eq_some_iff]
  constructor
  · rintro ⟨t, ht, hget⟩
    obtain ⟨hfind, hlive⟩ := Option.filter_eq_some_iff.mp ht
    obtain ⟨hmem, htxid⟩ := mem_of_walletTx hfind
    exact ⟨t, hmem, hlive, htxid, hget⟩
  · rintro ⟨t, hmem, hlive, htxid, hget⟩
    refine ⟨t, ?_, hget⟩
    rw [← htxid, walletTx_of_mem hmem, Option.filter_some, if_pos hlive]

theorem mem_paidTo : c ∈ w.paidTo address ↔
    w.paid? c.prevout = some c.output ∧ c.output.address = address := by
  unfold paidTo
  rw [List.mem_filter, List.mem_flatMap, decide_eq_true_iff, paid_eq_some]
  refine and_congr_left fun _ => ?_
  constructor
  · rintro ⟨t, ht, hc⟩
    obtain ⟨hmem, hlive⟩ := List.mem_filter.mp ht
    obtain ⟨htxid, hget⟩ := mem_coins.mp hc
    exact ⟨t, hmem, hlive, htxid.symm, hget⟩
  · rintro ⟨t, hmem, hlive, htxid, hget⟩
    exact ⟨t, List.mem_filter.mpr ⟨hmem, hlive⟩, mem_coins.mpr ⟨htxid.symm, hget⟩⟩

theorem coinOf_eq_some : w.coinOf address prevout = some c ↔
    c.prevout = prevout ∧ c ∈ w.paidTo address := by
  rw [mem_paidTo]
  unfold coinOf
  constructor
  · intro h
    obtain ⟨output, houtput, rfl⟩ := Option.map_eq_some_iff.mp h
    obtain ⟨hget, haddress⟩ := Option.filter_eq_some_iff.mp houtput
    exact ⟨rfl, hget, by simpa using haddress⟩
  · rintro ⟨rfl, hget, haddress⟩
    rw [hget, Option.filter_some, if_pos (by simpa using haddress)]
    rfl

theorem coins_nodup (t : WalletTx) : (t.coins.map Coin.prevout).Nodup := by
  have hidx : (t.outputs.zipIdx.map Prod.snd).Nodup := by
    rw [List.zipIdx_map_snd]
    exact List.nodup_range'
  have hmap : t.coins.map Coin.prevout
      = (t.outputs.zipIdx.map Prod.snd).map fun i => ⟨t.txid, i⟩ := by
    unfold WalletTx.coins
    rw [List.map_map, List.map_map]
    rfl
  rw [hmap]
  exact hidx.map fun i j h => congrArg TxOutpoint.outIdx h

theorem paidTo_nodup : ((w.paidTo address).map Coin.prevout).Nodup := by
  have hall : (((w.txs.filter WalletTx.live).flatMap WalletTx.coins).map Coin.prevout).Nodup := by
    rw [List.map_flatMap, List.nodup_flatMap]
    refine ⟨fun t _ => coins_nodup t, ?_⟩
    refine List.Pairwise.imp ?_ ((List.pairwise_map.mp w.txids_nodup).filter _)
    intro t t' hne prevout h h'
    obtain ⟨c, hc, rfl⟩ := List.mem_map.mp h
    obtain ⟨c', hc', heq⟩ := List.mem_map.mp h'
    have htxid := (mem_coins.mp hc).1
    rw [← heq, (mem_coins.mp hc').1] at htxid
    exact hne htxid.symm
  exact hall.sublist (List.filter_sublist.map _)

theorem spender_of_mem (ht : t ∈ w.txs) (hlive : t.live = true) (h : prevout ∈ t.inputs) :
    w.spender? prevout = some t := by
  unfold spender?
  have hsome : (w.txs.find? fun t => t.live && prevout ∈ t.inputs).isSome := by
    rw [List.find?_isSome]
    exact ⟨t, ht, by simpa using ⟨hlive, h⟩⟩
  obtain ⟨t', ht'⟩ := Option.isSome_iff_exists.mp hsome
  have hmem := List.mem_of_find?_eq_some ht'
  obtain ⟨hlive', hspends⟩ : t'.live = true ∧ prevout ∈ t'.inputs := by
    simpa using List.find?_some ht'
  rw [ht']
  by_contra hne
  have hsymm : Std.Symm (Function.onFun List.Disjoint WalletTx.inputs) :=
    ⟨fun _ _ hdisjoint => hdisjoint.symm⟩
  have hpair := (List.nodup_flatMap.mp w.live_spent_once).2
  exact hpair.forall (List.mem_filter.mpr ⟨hmem, hlive'⟩) (List.mem_filter.mpr ⟨ht, hlive⟩)
    (fun heq => hne (by rw [heq])) hspends h

theorem mem_of_spender (h : w.spender? prevout = some t) :
    t ∈ w.txs ∧ t.live = true ∧ prevout ∈ t.inputs :=
  ⟨List.mem_of_find?_eq_some h, by simpa using List.find?_some h⟩

/-! ## What the transactions spend -/

theorem mem_spends {s : Spend} : s ∈ w.spends address t ↔
    s.coin ∈ w.paidTo address ∧ s.coin.prevout ∈ t.inputs ∧ s.txid = t.txid ∧
      s.blockheight = t.blockheight := by
  obtain ⟨c, txid, blockheight⟩ := s
  unfold spends
  simp only [List.mem_map, List.mem_filterMap, coinOf_eq_some, Spend.mk.injEq]
  constructor
  · rintro ⟨c', ⟨prevout, hmem, rfl, hpaid⟩, rfl, rfl, rfl⟩
    exact ⟨hpaid, hmem, rfl, rfl⟩
  · rintro ⟨hpaid, hmem, rfl, rfl⟩
    exact ⟨c, ⟨_, hmem, rfl, hpaid⟩, rfl, rfl, rfl⟩

theorem spends_prevouts : (w.spends address t).map (fun s => s.coin.prevout) =
    t.inputs.filter fun prevout => (w.coinOf address prevout).isSome := by
  unfold spends
  rw [List.map_map]
  induction t.inputs with
  | nil => rfl
  | cons prevout inputs ih =>
    cases hcoin : w.coinOf address prevout with
    | none =>
      rw [List.filterMap_cons_none hcoin, List.filter_cons_of_neg (by simp [hcoin]), ih]
    | some c =>
      rw [List.filterMap_cons_some hcoin, List.filter_cons_of_pos (by simp [hcoin]), List.map_cons, ih]
      congr 1
      exact (coinOf_eq_some.mp hcoin).1

theorem mem_spent {s : Spend} : s ∈ w.spent address t ↔ t.live = true ∧ s ∈ w.spends address t := by
  unfold spent
  split
  · next hlive => exact (and_iff_right hlive).symm
  · next hlive => exact iff_of_false List.not_mem_nil fun h => hlive h.1

theorem spent_of_live (h : t.live = true) : w.spent address t = w.spends address t := if_pos h

/-- What was paid to the address and spent again. -/
def allSpends (w : Wallet) (address : Address) : List Spend := w.txs.flatMap (w.spent address)

theorem mem_allSpends {s : Spend} : s ∈ w.allSpends address ↔
    ∃ t ∈ w.txs, t.live = true ∧ s ∈ w.spends address t := by
  unfold allSpends
  rw [List.mem_flatMap]
  exact exists_congr fun t => and_congr_right fun _ => mem_spent

theorem allSpends_eq (w : Wallet) (address : Address) :
    w.allSpends address = (w.txs.filter WalletTx.live).flatMap (w.spends address) := by
  unfold allSpends
  induction w.txs with
  | nil => rfl
  | cons t txs ih =>
    rw [List.flatMap_cons, ih, List.filter_cons]
    unfold spent
    split
    · rw [List.flatMap_cons]
    · rfl

/-- Every output is spent once. -/
theorem spends_nodup (address : Address) :
    ((w.allSpends address).map fun s => s.coin.prevout).Nodup := by
  have hfilter : (w.allSpends address).map (fun s => s.coin.prevout)
      = ((w.txs.filter WalletTx.live).flatMap WalletTx.inputs).filter fun prevout =>
        (w.coinOf address prevout).isSome := by
    rw [allSpends_eq, List.map_flatMap, List.filter_flatMap]
    exact List.flatMap_congr fun t _ => spends_prevouts
  rw [hfilter]
  exact w.live_spent_once.filter _

/-- What a transaction takes from an address makes it one that has sent. -/
theorem spendsFrom_of_spends (h : w.spends address t ≠ []) : w.spendsFrom address t = true := by
  obtain ⟨s, hs⟩ := List.exists_mem_of_ne_nil _ h
  obtain ⟨hpaid, hmem, -⟩ := mem_spends.mp hs
  obtain ⟨hpays, haddress⟩ := mem_paidTo.mp hpaid
  obtain ⟨p, hp, -, htxid, hget⟩ := paid_eq_some.mp hpays
  have houtput : w.output? s.coin.prevout = some s.coin.output := by
    unfold output?
    rw [← htxid, walletTx_of_mem hp]
    exact hget
  unfold spendsFrom
  rw [List.any_eq_true]
  exact ⟨s.coin.prevout, hmem, by rw [houtput]; simpa using haddress⟩

/-- The outputs that are spent are those the transactions spend. -/
theorem spent_perm (w : Wallet) (address : Address) :
    ((w.paidTo address).filter fun c => !(w.spender? c.prevout).isNone).Perm
      ((w.allSpends address).map Spend.coin) := by
  refine (List.perm_ext_iff_of_nodup ?_ ?_).mpr fun c => ?_
  · exact (List.Nodup.of_map _ paidTo_nodup).filter _
  · refine List.Nodup.of_map Coin.prevout ?_
    rw [List.map_map]
    exact spends_nodup address
  · rw [List.mem_filter, List.mem_map]
    constructor
    · rintro ⟨hpaid, hspent⟩
      obtain ⟨t, ht⟩ := Option.isSome_iff_exists.mp (by simpa using hspent)
      obtain ⟨hmem, hlive, hinput⟩ := mem_of_spender ht
      refine ⟨⟨c, t.txid, t.blockheight⟩, mem_allSpends.mpr ⟨t, hmem, hlive, ?_⟩, rfl⟩
      exact mem_spends.mpr ⟨hpaid, hinput, rfl, rfl⟩
    · rintro ⟨s, hs, rfl⟩
      obtain ⟨t, hmem, hlive, hst⟩ := mem_allSpends.mp hs
      obtain ⟨hpaid, hinput, -⟩ := mem_spends.mp hst
      rw [spender_of_mem hmem hlive hinput]
      exact ⟨hpaid, rfl⟩

/-! ## What the code computes -/

theorem floor_sats (value : Nat) : ⌊(value / COIN : ℚ) * COIN⌋ = (value : Int) := by
  have hcoin : (COIN : ℚ) ≠ 0 := by norm_num [COIN]
  rw [div_mul_cancel₀ _ hcoin]
  exact Int.floor_natCast value

theorem floor_satsTwice (value : Nat) : ⌊(value : ℚ) * COIN⌋ = (value : Int) * COIN := by
  exact_mod_cast Int.floor_natCast (R := ℚ) (value * COIN)

theorem listunspent_txins (w : Wallet) (address : Address) :
    (w.listunspent address).map Utxo.toPartialTxin =
      ((w.paidTo address).filter fun c => (w.spender? c.prevout).isNone).map Coin.txin := by
  unfold listunspent
  rw [List.map_map]
  refine List.map_congr_left fun c _ => ?_
  show PartialTxInput.mk _ _ _ _ = PartialTxInput.mk _ _ _ _
  rw [PartialTxInput.mk.injEq]
  exact ⟨rfl, floor_sats c.output.value, rfl, rfl⟩

/-- The txids received by an address. -/
def receivedTxids (w : Wallet) (address : Address) : List Txid :=
  (w.paidTo address).map fun c => c.prevout.txid

/-- What is found behind an entry. -/
def found (w : Wallet) (address : Address) (entry : WalletEntry) : List Spend :=
  match entry.category with
  | .receive => []
  | .send => ((w.getTransaction entry.txid).map (w.spends address)).getD []

/-- The entry of a transaction that cannot be had. -/
def gone (w : Wallet) (entry : WalletEntry) : Bool :=
  entry.category = .send && (w.getTransaction entry.txid).isNone

/-- A transaction that an address has received is there, and has the output that is spent. -/
theorem output_of_received (ht : t ∈ w.txs) (hinput : prevout ∈ t.inputs)
    (hreceived : prevout.txid ∈ w.receivedTxids address) :
    ∃ p output, w.getTransaction prevout.txid = some p ∧
      p.outputs[prevout.outIdx]? = some output ∧ w.paid? prevout = some output := by
  obtain ⟨c, hc, htxid⟩ := List.mem_map.mp hreceived
  obtain ⟨p, hmem, hlive, hptxid, -⟩ := paid_eq_some.mp (mem_paidTo.mp hc).1
  have hptxid := hptxid.trans htxid
  have hlt := w.spends_outputs t ht prevout hinput p hmem hptxid
  have hget : p.outputs[prevout.outIdx]? = some p.outputs[prevout.outIdx] :=
    List.getElem?_eq_getElem hlt
  refine ⟨p, p.outputs[prevout.outIdx], ?_, hget, paid_eq_some.mpr ⟨p, hmem, hlive, hptxid, hget⟩⟩
  rw [← hptxid, getTransaction_of_mem hmem, if_pos (indexed_of_live hlive)]

/-- **Spec of the loop over the inputs**: it adds the outputs of the address among them. -/
theorem collectSpent_eq (ht : t ∈ w.txs) (entry : WalletEntry) {inputs : List TxOutpoint}
    (hinputs : ∀ prevout ∈ inputs, prevout ∈ t.inputs) (spent_utxos : List PartialTxInput)
    (spent_amount_sat : Int) :
    w.collectSpent (w.receivedTxids address) address entry inputs spent_utxos spent_amount_sat =
      let spends := (inputs.filterMap (w.coinOf address)).map fun c =>
        (⟨c, entry.txid, entry.blockheight⟩ : Spend)
      .ok (spent_utxos ++ spends.map Spend.txin, spent_amount_sat - worth Spend.value spends) := by
  induction inputs generalizing spent_utxos spent_amount_sat with
  | nil => simp [collectSpent]
  | cons prevout inputs ih =>
    have hrest := ih fun prevout' h => hinputs prevout' (List.mem_cons_of_mem _ h)
    have hinput : prevout ∈ t.inputs := hinputs prevout List.mem_cons_self
    unfold collectSpent
    cases hcoin : w.coinOf address prevout with
    | none =>
      rw [List.filterMap_cons_none hcoin]
      split
      · next hreceived =>
        obtain ⟨p, output, hp, houtput, hpays⟩ := output_of_received ht hinput hreceived
        have hother : ¬ output.address = address := by
          intro haddress
          have hpaid : (⟨prevout, output⟩ : Coin) ∈ w.paidTo address :=
            mem_paidTo.mpr ⟨hpays, haddress⟩
          rw [coinOf_eq_some.mpr ⟨rfl, hpaid⟩] at hcoin
          cases hcoin
        simp only [hp, houtput, if_neg hother]
        exact hrest spent_utxos spent_amount_sat
      · exact hrest spent_utxos spent_amount_sat
    | some c =>
      obtain ⟨rfl, hpaid⟩ := coinOf_eq_some.mp hcoin
      have hreceived : c.prevout.txid ∈ w.receivedTxids address := List.mem_map.mpr ⟨c, hpaid, rfl⟩
      obtain ⟨hpays, haddress⟩ := mem_paidTo.mp hpaid
      obtain ⟨p, output, hp, houtput, hpays'⟩ := output_of_received ht hinput hreceived
      rw [hpays] at hpays'
      cases hpays'
      rw [if_pos hreceived]
      simp only [hp, houtput, if_pos haddress]
      rw [hrest, List.filterMap_cons_some hcoin]
      have htxin : Utxo.toPartialTxin ⟨c.prevout.txid, c.prevout.outIdx, c.output.value,
          some (entry.blockheight.getD 0), some entry.txid⟩
          = Spend.txin ⟨c, entry.txid, entry.blockheight⟩ := by
        show PartialTxInput.mk _ _ _ _ = PartialTxInput.mk _ _ _ _
        rw [PartialTxInput.mk.injEq]
        exact ⟨rfl, floor_satsTwice c.output.value, rfl, rfl⟩
      rw [htxin]
      simp only [List.map_cons, List.append_assoc, List.singleton_append]
      rw [worth_cons, Nat.cast_add, Int.sub_sub]
      rfl

theorem collectSpent_inputs (ht : t ∈ w.txs) (spent_utxos : List PartialTxInput)
    (spent_amount_sat : Int) :
    w.collectSpent (w.receivedTxids address) address ⟨.send, t.txid, t.blockheight⟩ t.inputs
      spent_utxos spent_amount_sat =
      .ok (spent_utxos ++ (w.spends address t).map Spend.txin,
        spent_amount_sat - worth Spend.value (w.spends address t)) :=
  collectSpent_eq ht _ (fun _ h => h) spent_utxos spent_amount_sat

/-- An entry is one of a transaction. -/
theorem mem_listtransactions {entry : WalletEntry} (h : entry ∈ w.listtransactions) :
    ∃ t ∈ w.txs, entry.txid = t.txid ∧ entry.blockheight = t.blockheight := by
  obtain ⟨t, ht, hentry⟩ := List.mem_flatMap.mp h
  refine ⟨t, ht, ?_⟩
  unfold entriesOf at hentry
  rcases List.mem_append.mp hentry with hsend | hreceive
  · split at hsend
    · obtain ⟨_, -, rfl⟩ := List.mem_map.mp hsend
      exact ⟨rfl, rfl⟩
    · cases hsend
  · obtain ⟨_, -, rfl⟩ := List.mem_map.mp hreceive
    exact ⟨rfl, rfl⟩

/-- What is found behind the entries of one that can be had. -/
theorem found_send (ht : t ∈ w.txs) (blockheight : Option Nat) :
    w.found address ⟨.send, t.txid, blockheight⟩ = if t.indexed then w.spends address t else [] := by
  unfold found
  dsimp only
  rw [getTransaction_of_mem ht]
  split
  · rfl
  · rfl

theorem gone_send (ht : t ∈ w.txs) (blockheight : Option Nat) :
    w.gone ⟨.send, t.txid, blockheight⟩ = !t.indexed := by
  unfold gone
  dsimp only
  rw [getTransaction_of_mem ht]
  cases t.indexed with
  | false => rfl
  | true => rfl

/-- **Spec of `_fetch_spent_utxos`**: it reads entries until what it has found is worth the amount, and
raises at one whose transaction cannot be had. -/
theorem fetchSpentUtxos_eq {entries : List WalletEntry}
    (hentries : ∀ entry ∈ entries, entry ∈ w.listtransactions) {skip_txs : Nat}
    (hskip : skip_txs ≤ 200) (spent_amount_sat : Int) (spent_utxos : List PartialTxInput) :
    w.fetchSpentUtxos (w.receivedTxids address) address entries skip_txs spent_amount_sat
      spent_utxos =
      if (reads (w.found address) Spend.value entries (200 - skip_txs) spent_amount_sat).any w.gone
      then .error .AttributeError
      else .ok (spent_utxos ++ (drain (w.found address) Spend.value entries (200 - skip_txs)
        spent_amount_sat).map Spend.txin) := by
  induction entries generalizing skip_txs spent_amount_sat spent_utxos with
  | nil => simp [fetchSpentUtxos, drain, reads]
  | cons entry entries ih =>
    have hrest : ∀ entry' ∈ entries, entry' ∈ w.listtransactions := fun entry' h =>
      hentries entry' (List.mem_cons_of_mem _ h)
    unfold fetchSpentUtxos
    by_cases hamount : 0 < spent_amount_sat
    · rw [if_pos hamount]
      dsimp only
      rcases Nat.lt_or_eq_of_le hskip with hlt | rfl
      · obtain ⟨limit, hlimit⟩ : ∃ limit, 200 - skip_txs = limit + 1 := ⟨199 - skip_txs, by omega⟩
        have hnext : limit = 200 - (skip_txs + 1) := by omega
        rw [if_neg (by omega), hlimit, drain_cons _ _ hamount, reads_cons _ _ hamount, List.any_cons]
        obtain ⟨t, ht, htxid, hheight⟩ := mem_listtransactions (hentries entry List.mem_cons_self)
        obtain ⟨category, txid, blockheight⟩ := entry
        cases htxid
        cases hheight
        cases category with
        | receive =>
          have hnone : w.found address ⟨.receive, t.txid, t.blockheight⟩ = [] := rfl
          have hthere : w.gone ⟨.receive, t.txid, t.blockheight⟩ = false := rfl
          rw [if_neg (fun h => by cases h), ih hrest hlt, hnone, hthere, hnext]
          simp
        | send =>
          rw [if_pos rfl, gone_send ht, found_send ht, getTransaction_of_mem ht]
          cases hindexed : t.indexed with
          | false => rfl
          | true =>
            simp only [if_true]
            rw [collectSpent_inputs ht]
            dsimp only
            rw [ih hrest hlt, hnext]
            simp
      · rw [if_pos (by omega)]
        simp [drain, reads]
    · rw [if_neg hamount, drain_done _ _ (Int.not_lt.mp hamount), reads_done _ _ (Int.not_lt.mp hamount)]
      simp

/-- What was paid to the address and is unspent. -/
def unspent (w : Wallet) (address : Address) : List Coin :=
  (w.paidTo address).filter fun c => (w.spender? c.prevout).isNone

/-- The entries the search reads. -/
def searched (w : Wallet) (address : Address) : List WalletEntry :=
  reads (w.found address) Spend.value w.listtransactions 200
    (worth Spend.value (w.allSpends address))

/-- What it finds. -/
def drained (w : Wallet) (address : Address) : List Spend :=
  drain (w.found address) Spend.value w.listtransactions 200
    (worth Spend.value (w.allSpends address))

theorem worth_paidTo (w : Wallet) (address : Address) :
    worth (fun c : Coin => c.output.value) (w.paidTo address) =
      worth (fun c : Coin => c.output.value) (w.unspent address) +
        worth Spend.value (w.allSpends address) := by
  rw [← worth_filter_add _ (fun c => (w.spender? c.prevout).isNone) (w.paidTo address),
    worth_perm _ (spent_perm w address), worth_map]
  rfl

theorem sum_unspent (l : List Coin) :
    ((l.map Coin.txin).map fun txin => txin.valueSats).sum =
      (worth (fun c : Coin => c.output.value) l : Int) := by
  induction l with
  | nil => rfl
  | cons c l ih =>
    rw [List.map_cons, List.map_cons, List.sum_cons, ih, worth_cons, Nat.cast_add]
    rfl

/-- The values of what was found are multiplied by 100000000 once too often. -/
theorem sum_found (l : List Spend) :
    ((l.map Spend.txin).map fun txin => txin.valueSats).sum =
      (worth Spend.value l : Int) * COIN := by
  induction l with
  | nil => rfl
  | cons s l ih =>
    rw [List.map_cons, List.map_cons, List.sum_cons, ih, worth_cons, Nat.cast_add, Int.add_mul]
    rfl

/-- **Spec of `get_addr_outputs`** for an imported address. -/
theorem getAddrOutputs_eq (h : address ∈ w.watched) :
    w.getAddrOutputs address =
      if (w.searched address).any w.gone then .error .AttributeError
      else if 0 < (worth Spend.value (w.allSpends address) : Int) -
          worth Spend.value (w.drained address) * COIN then .error .UtxosNotFoundError
      else .ok ((w.unspent address).map Coin.txin ++ (w.drained address).map Spend.txin) := by
  have hunspent : (w.listunspent address).map Utxo.toPartialTxin
      = (w.unspent address).map Coin.txin := listunspent_txins w address
  have hreceived : ⌊((((w.paidTo address).map fun c => c.output.value).sum : ℕ) / COIN : ℚ) * COIN⌋
      = (worth (fun c : Coin => c.output.value) (w.paidTo address) : Int) := floor_sats _
  have hamount : (worth (fun c : Coin => c.output.value) (w.paidTo address) : Int)
      - worth (fun c : Coin => c.output.value) (w.unspent address)
      = worth Spend.value (w.allSpends address) := by
    rw [worth_paidTo, Nat.cast_add, add_sub_cancel_left]
  have hfetch : w.fetchSpentUtxos ((w.paidTo address).map fun c => c.prevout.txid) address
      w.listtransactions 0 (worth Spend.value (w.allSpends address)) [] =
      if (w.searched address).any w.gone then .error .AttributeError
      else .ok ([] ++ (w.drained address).map Spend.txin) :=
    fetchSpentUtxos_eq (fun _ h => h) (Nat.zero_le 200) _ []
  have hidle : ¬ (0 : Int) < worth Spend.value (w.allSpends address) →
      w.searched address = [] ∧ w.drained address = [] := fun hpos =>
    ⟨reads_done _ _ (Int.not_lt.mp hpos) _ _, drain_done _ _ (Int.not_lt.mp hpos) _ _⟩
  rw [List.nil_append] at hfetch
  unfold getAddrOutputs listreceivedbyaddress
  rw [if_pos h]
  dsimp only
  rw [hunspent, sum_unspent, hreceived, hamount]
  by_cases hempty : (w.paidTo address).map (fun c => c.prevout.txid) = []
  · -- nothing was paid to the address
    have hnone : w.paidTo address = [] := List.map_eq_nil_iff.mp hempty
    have hspends : w.allSpends address = [] := by
      have hperm := spent_perm w address
      rw [hnone, List.filter_nil] at hperm
      exact List.map_eq_nil_iff.mp hperm.nil_eq.symm
    obtain ⟨hsearched, hdrained⟩ := hidle (by rw [hspends]; exact lt_irrefl _)
    rw [if_pos hempty, hspends, hsearched, hdrained, unspent, hnone]
    rfl
  · rw [if_neg hempty]
    by_cases hpos : (0 : Int) < worth Spend.value (w.allSpends address)
    · rw [if_pos hpos, hfetch]
      by_cases hgone : (w.searched address).any w.gone = true
      · rw [if_pos hgone, if_pos hgone]
      · rw [if_neg hgone, if_neg hgone]
        dsimp only
        rw [sum_found]
    · -- everything of value is unspent, so nothing is looked for
      obtain ⟨hsearched, hdrained⟩ := hidle hpos
      rw [if_neg hpos, hsearched, hdrained, if_neg (by simp), if_neg (by simpa using hpos)]
      simp

/-! ## What is found has been taken -/

theorem found_of_mem {entry : WalletEntry} {s : Spend} (h : s ∈ w.found address entry) :
    ∃ t ∈ w.txs, t.txid = entry.txid ∧ s ∈ w.spends address t := by
  unfold found at h
  split at h
  · cases h
  · cases ht : w.getTransaction entry.txid with
    | none =>
      rw [ht] at h
      cases h
    | some t =>
      rw [ht] at h
      obtain ⟨hmem, htxid⟩ := mem_of_walletTx (Option.filter_eq_some_iff.mp ht).1
      exact ⟨t, hmem, htxid, h⟩

/-- What is found was taken by some transaction, which may have been displaced. -/
theorem spends_of_drained {s : Spend} (h : s ∈ w.drained address) :
    ∃ t ∈ w.txs, s ∈ w.spends address t := by
  obtain ⟨entry, -, hs⟩ := List.mem_flatMap.mp (mem_of_drain _ _ h)
  obtain ⟨t, ht, -, hst⟩ := found_of_mem hs
  exact ⟨t, ht, hst⟩

theorem paid_of_drained {s : Spend} (h : s ∈ w.drained address) : s.coin ∈ w.paidTo address := by
  obtain ⟨t, -, hst⟩ := spends_of_drained h
  exact (mem_spends.mp hst).1

/-- What is taken names the transaction. -/
theorem eq_of_mem_spends {t' : WalletTx} {s : Spend} (ht : t ∈ w.txs) (ht' : t' ∈ w.txs)
    (h : s ∈ w.spends address t) (h' : s.txid = t'.txid) : t = t' := by
  obtain ⟨-, -, htxid, -⟩ := mem_spends.mp h
  exact List.inj_on_of_nodup_map w.txids_nodup ht ht' (htxid.symm.trans h')

theorem spender_of_allSpends {s : Spend} (h : s ∈ w.allSpends address) :
    s.coin ∈ w.paidTo address ∧ ∃ t, w.spender? s.coin.prevout = some t ∧ s.txid = t.txid ∧
      s.blockheight = t.blockheight := by
  obtain ⟨t, ht, hlive, hst⟩ := mem_allSpends.mp h
  obtain ⟨hpaid, hinput, htxid, hheight⟩ := mem_spends.mp hst
  exact ⟨hpaid, t, spender_of_mem ht hlive hinput, htxid, hheight⟩

theorem mem_unspent : c ∈ w.unspent address ↔
    c ∈ w.paidTo address ∧ w.spender? c.prevout = none := by
  unfold unspent
  rw [List.mem_filter, Option.isNone_iff_eq_none]

/-- An output with a spender has been spent. -/
theorem mem_allSpends_of_spender (hc : c ∈ w.paidTo address) (h : w.spender? c.prevout = some t) :
    (⟨c, t.txid, t.blockheight⟩ : Spend) ∈ w.allSpends address := by
  obtain ⟨ht, hlive, hinput⟩ := mem_of_spender h
  exact mem_allSpends.mpr ⟨t, ht, hlive, mem_spends.mpr ⟨hc, hinput, rfl, rfl⟩⟩

end Wallet

end SubswapProvider
