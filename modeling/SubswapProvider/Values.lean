import SubswapProvider.Discovery

/-!
# The values of discovered outputs

`listunspent` gives an amount in bitcoin and `_fetch_spent_utxos` one in satoshis, and both go through
`_utxo_to_partial_txin`, which multiplies by `COIN`. So an output that has been spent is worth a hundred
million times what it was (`valueSats_spent`), and the check for missing outputs, a comparison of such
sums, lets nearly every incomplete answer pass.

The values are right exactly when none of them is reported (`values_told_iff`).
-/

namespace SubswapProvider

open Drain

namespace Wallet

variable (w : Wallet) (address : Address)

/-- All that was ever paid to an address. -/
def received : Nat := worth (fun c : Coin => c.output.value) (w.paidTo address)

/-- What is said about the values of the outputs of an address. -/
structure Valued (txins : List PartialTxInput) : Prop where
  each : ∀ c ∈ w.paidTo address, ∀ txin ∈ txins, txin.prevout = c.prevout →
    txin.valueSats = c.output.value
  sum : (txins.map PartialTxInput.valueSats).sum = w.received address
  all : ∀ c ∈ w.paidTo address, c.prevout ∈ txins.map PartialTxInput.prevout

/-- `get_addr_outputs` reports the values as they are, or that an output could not be found. -/
def TellsValues : Prop :=
  match w.getAddrOutputs address with
  | .ok txins => w.Valued address txins
  | .error e => e = .UtxosNotFoundError

/-- What the first 200 entries of the wallet lead to: the outputs of the address that the transaction
of an entry spends, once for each of its entries. -/
def listed : List Spend := (w.listtransactions.take 200).flatMap (w.found address)

/-- These are worth too little even when each satoshi is taken for a bitcoin, and the search gets through
the entries. -/
def Unlocated : Prop :=
  COIN * worth Spend.value (w.listed address) < worth Spend.value (w.allSpends address) ∧
    (w.listtransactions.take 200).any w.gone = false

instance : Decidable (w.Unlocated address) := inferInstanceAs (Decidable (_ ∧ _))

variable {w address}

theorem valueSats_spent (s : Spend) : s.txin.valueSats = s.value * COIN := rfl

theorem searched_of_short (h : (0 : Int) < worth Spend.value (w.allSpends address) -
    worth Spend.value (w.drained address) * COIN) :
    w.searched address = w.listtransactions.take 200 := by
  have hcoin : (1 : Int) ≤ COIN := by norm_num [COIN]
  apply reads_short
  show (worth Spend.value (w.drained address) : Int) < _
  nlinarith [Int.natCast_nonneg (worth Spend.value (w.drained address))]

/-- Whether the answer is refused does not depend on where the search has stopped: one that is refused
has read all it may. -/
theorem short_iff : COIN * worth Spend.value (w.listed address) < worth Spend.value (w.allSpends address) ↔
    (0 : Int) < worth Spend.value (w.allSpends address) -
      worth Spend.value (w.drained address) * COIN := by
  have hcoin : (1 : Int) ≤ COIN := by norm_num [COIN]
  have hmul : ∀ n : Nat, (n : Int) ≤ n * COIN := fun n => by
    nlinarith [Int.natCast_nonneg n]
  constructor
  · intro h
    have h : (COIN : Int) * worth Spend.value (w.listed address)
        < worth Spend.value (w.allSpends address) := by exact_mod_cast h
    have hsearched : w.searched address = w.listtransactions.take 200 := by
      apply reads_take
      have := hmul (worth Spend.value (w.listed address))
      show (worth Spend.value (w.listed address) : Int) < _
      linarith
    have hdrained : w.drained address = w.listed address :=
      congrArg (List.flatMap (w.found address)) hsearched
    rw [hdrained]
    linarith
  · intro h
    have hdrained : w.drained address = w.listed address :=
      congrArg (List.flatMap (w.found address)) (searched_of_short h)
    rw [hdrained] at h
    have h : (COIN : Int) * worth Spend.value (w.listed address)
        < worth Spend.value (w.allSpends address) := by linarith
    exact_mod_cast h

/-- Without a spent output each one is reported, and as it is. -/
theorem valued_of_unspent (h : w.allSpends address = []) :
    w.Valued address ((w.unspent address).map Coin.txin) := by
  have hall : ∀ c ∈ w.paidTo address, c ∈ w.unspent address := by
    intro c hc
    refine mem_unspent.mpr ⟨hc, ?_⟩
    cases hspender : w.spender? c.prevout with
    | none => rfl
    | some t =>
      have hs := mem_allSpends_of_spender hc hspender
      rw [h] at hs
      cases hs
  refine ⟨?_, ?_, ?_⟩
  · intro c hc txin htxin hprevout
    obtain ⟨c', hc', rfl⟩ := List.mem_map.mp htxin
    have hsame : c' = c :=
      List.inj_on_of_nodup_map paidTo_nodup (mem_unspent.mp hc').1 hc hprevout
    rw [hsame]
    rfl
  · rw [received, worth_paidTo, h]
    exact sum_unspent (w.unspent address)
  · intro c hc
    rw [List.map_map]
    exact List.mem_map_of_mem (f := fun c : Coin => c.txin.prevout) (hall c hc)

/-- With one, an answer lacks it or overstates it. -/
theorem not_valued_of_spent (h : w.allSpends address ≠ [])
    (henough : ¬ (0 : Int) < worth Spend.value (w.allSpends address) -
      worth Spend.value (w.drained address) * COIN) :
    ¬ w.Valued address ((w.unspent address).map Coin.txin ++ (w.drained address).map Spend.txin) := by
  rintro ⟨heach, -, hall⟩
  obtain ⟨s, hs⟩ := List.exists_mem_of_ne_nil _ h
  obtain ⟨hpaid, t, ht, -⟩ := spender_of_allSpends hs
  -- a spent output is among the answers only if the search has found it
  have hfound : ∃ s' ∈ w.drained address, s'.coin.prevout = s.coin.prevout := by
    have hmem := hall s.coin hpaid
    rw [List.map_append, List.map_map, List.map_map] at hmem
    rcases List.mem_append.mp hmem with hmem | hmem
    · obtain ⟨c, hc, heq⟩ := List.mem_map.mp hmem
      have heq : c.prevout = s.coin.prevout := heq
      have hnone := (mem_unspent.mp hc).2
      rw [heq, ht] at hnone
      cases hnone
    · exact List.mem_map.mp hmem
  -- so the search has begun, and found something of value
  have hpos : ∃ s' ∈ w.drained address, 0 < s'.value := by
    rw [← worth_pos]
    by_contra hzero
    have hzero : worth Spend.value (w.drained address) = 0 := by omega
    rw [hzero] at henough
    have hdrained : w.drained address = [] := by
      apply drain_done
      push_cast at henough
      omega
    obtain ⟨s', hs', -⟩ := hfound
    rw [hdrained] at hs'
    cases hs'
  obtain ⟨s', hs', hvalue⟩ := hpos
  have htwice : s'.txin.valueSats = (s'.value : Int) :=
    heach s'.coin (paid_of_drained hs') s'.txin
      (List.mem_append_right _ (List.mem_map_of_mem hs')) rfl
  rw [valueSats_spent] at htwice
  have hcoin : (COIN : Int) = 100000000 := rfl
  rw [hcoin] at htwice
  omega

/-- **The values are told** exactly when nothing has been spent, or too little of it is listed. -/
theorem values_told_iff (w : Wallet) (address : Address) (h : address ∈ w.watched) :
    w.TellsValues address ↔ w.allSpends address = [] ∨ w.Unlocated address := by
  have hnone : w.allSpends address = [] → w.searched address = [] ∧ w.drained address = [] := by
    intro hnone
    unfold searched drained
    rw [hnone]
    exact ⟨reads_done _ _ le_rfl _ _, drain_done _ _ le_rfl _ _⟩
  unfold TellsValues Unlocated
  rw [getAddrOutputs_eq h, short_iff]
  by_cases hgone : (w.searched address).any w.gone = true
  · -- the search raises something else
    rw [if_pos hgone]
    refine iff_of_false nofun ?_
    rintro (hspent | ⟨hshort, hthere⟩)
    · rw [(hnone hspent).1] at hgone
      cases hgone
    · rw [searched_of_short hshort, hthere] at hgone
      cases hgone
  · rw [if_neg hgone]
    by_cases hshort : (0 : Int) < worth Spend.value (w.allSpends address) -
        worth Spend.value (w.drained address) * COIN
    · rw [if_pos hshort]
      refine iff_of_true rfl (.inr ⟨hshort, ?_⟩)
      rw [searched_of_short hshort] at hgone
      exact Bool.not_eq_true _ ▸ hgone
    · rw [if_neg hshort]
      show w.Valued address _ ↔ _
      constructor
      · intro hvalued
        left
        by_contra hspent
        exact not_valued_of_spent hspent hshort hvalued
      · rintro (hspent | ⟨hshort', -⟩)
        · rw [(hnone hspent).2, List.map_nil, List.append_nil]
          exact valued_of_unspent hspent
        · exact absurd hshort' hshort

section Sample

/-- The funding transaction of a swap that has not been claimed yet. -/
def notClaimed : Wallet where
  watched := ["bcrt1qlockup"]
  txs := [
    { txid := sampleTxid 1, inputs := [⟨sampleTxid 9, 0⟩]
      outputs := [⟨"bcrt1qlockup", 1000000⟩, ⟨"bcrt1qchange", 5000000⟩]
      blockheight := some 900001 }]
  txids_nodup := by decide +kernel
  live_spent_once := by decide +kernel
  outputs_ne_nil := by decide +kernel
  spends_outputs := by decide +kernel

/-- Its output is reported as it is. -/
theorem values_told_not_claimed : notClaimed.TellsValues "bcrt1qlockup" :=
  (values_told_iff notClaimed "bcrt1qlockup" (by decide +kernel)).mpr (.inl (by decide +kernel))

/-- When the swap has been claimed the same output is reported with a million bitcoin. -/
theorem values_of_claimed : "bcrt1qlockup" ∈ claimedOnce.watched ∧
    ¬ claimedOnce.TellsValues "bcrt1qlockup" := by
  refine ⟨by decide, ?_⟩
  have hcomputed : (claimedOnce.getAddrOutputs "bcrt1qlockup").map
      (fun txins => (txins.map PartialTxInput.valueSats).sum) = .ok 100000000000000 := by decide +kernel
  unfold TellsValues
  cases hr : claimedOnce.getAddrOutputs "bcrt1qlockup" with
  | error e =>
    rw [hr] at hcomputed
    cases hcomputed
  | ok txins =>
    rw [hr] at hcomputed
    have hsum : (txins.map PartialTxInput.valueSats).sum = 100000000000000 :=
      Except.ok.inj hcomputed
    rintro ⟨-, htotal, -⟩
    have hreceived : claimedOnce.received "bcrt1qlockup" = 1000000 := by decide +kernel
    rw [hsum, hreceived] at htotal
    omega

end Sample

end Wallet

end SubswapProvider
