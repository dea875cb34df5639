import SubswapProvider.Searching

/-!
# Which outputs are discovered

`_fetch_spent_utxos` stops as soon as what it has found is worth what has been spent, reads at most 200
entries of the wallet, and takes every entry for another transaction of the chain or the mempool. A
transaction with several outputs has several entries, so what it spends is found several times, and the
search stops too early. A transaction that has been displaced still has its entries, but `getrawtransaction`
does not find it, and the search raises (`addr_outputs_replaced`).

`addr_outputs_complete_iff` says for which histories the answer is right: the transactions that spend from
the address, but for the oldest of them, have one output each, the oldest one spends something of value, it
is listed among the first 200 entries, and no newer transaction that has been displaced is in the way.
-/

namespace SubswapProvider

open Drain

namespace Wallet

variable (w : Wallet) {address : Address} {t : WalletTx}

/-- The transactions that spend from an address, the newest first. -/
def spenders (address : Address) : List WalletTx := w.txs.filter fun t => w.spent address t ≠ []

/-- The transactions that are newer than `t`. -/
def newer (t : WalletTx) : List WalletTx := w.txs.takeWhile fun t' => t' ≠ t

/-- Their entries. -/
def entriesBefore (t : WalletTx) : List WalletEntry := (w.newer t).flatMap w.entriesOf

/-- A displaced transaction leads the search astray: it cannot be had any more, though it is listed as one
that has sent, or it can be had and takes from the address. -/
def Misleads (address : Address) (t : WalletTx) : Prop :=
  (t.indexed = false ∧ (w.watched.any fun address => w.spendsFrom address t) = true) ∨
    (t.indexed = true ∧ t.live = false ∧ w.spends address t ≠ [])

instance (address : Address) (t : WalletTx) : Decidable (w.Misleads address t) :=
  inferInstanceAs (Decidable (_ ∨ _))

/-- The answer is complete and without duplicates: the outputs ever paid to the address, each once, and
marked as spent if they are. -/
structure Discovers (address : Address) (txins : List PartialTxInput) : Prop where
  complete : ∀ prevout, prevout ∈ txins.map PartialTxInput.prevout ↔
    prevout ∈ (w.paidTo address).map Coin.prevout
  once : (txins.map PartialTxInput.prevout).Nodup
  spent : ∀ txin ∈ txins, txin.spentTxid = (w.spender? txin.prevout).map WalletTx.txid ∧
    txin.spentHeight = (w.spender? txin.prevout).map fun t => t.blockheight.getD 0

/-- What a history must be like for the search to find all and no output twice. -/
def Discoverable (address : Address) : Prop :=
  ∀ oldest ∈ (w.spenders address).getLast?,
    (∀ t ∈ w.spenders address, t ≠ oldest → t.outputs.length = 1) ∧
    (∃ s ∈ w.spends address oldest, 0 < s.value) ∧
    (w.entriesBefore oldest).length < 200 ∧
    ∀ t ∈ w.newer oldest, ¬ w.Misleads address t

instance (address : Address) : Decidable (w.Discoverable address) :=
  inferInstanceAs (Decidable (∀ oldest ∈ (w.spenders address).getLast?,
    (∀ t ∈ w.spenders address, t ≠ oldest → t.outputs.length = 1) ∧
    (∃ s ∈ w.spends address oldest, 0 < s.value) ∧ (w.entriesBefore oldest).length < 200 ∧
    ∀ t ∈ w.newer oldest, ¬ w.Misleads address t))

/-! ## When the search finds all -/

variable {w}

/-- The answer is right when what is found is what has been spent, each output once. -/
theorem discovers_iff (w : Wallet) (address : Address) :
    w.Discovers address ((w.unspent address).map Coin.txin ++ (w.drained address).map Spend.txin) ↔
      ((w.drained address).map fun s => s.coin.prevout).Nodup ∧
        ∀ s, s ∈ w.drained address ↔ s ∈ w.allSpends address := by
  have hprevouts : ((w.unspent address).map Coin.txin ++ (w.drained address).map Spend.txin).map
      PartialTxInput.prevout = (w.unspent address).map Coin.prevout ++
        (w.drained address).map fun s => s.coin.prevout := by
    rw [List.map_append, List.map_map, List.map_map]
    rfl
  constructor
  · rintro ⟨hcomplete, honce, hspent⟩
    rw [hprevouts] at hcomplete honce
    -- the answer names the spender of what is found, so that has not been displaced
    have hlive : ∀ s ∈ w.drained address, s ∈ w.allSpends address := by
      intro s hs
      obtain ⟨t, ht, hst⟩ := spends_of_drained hs
      have hnamed : some s.txid = (w.spender? s.coin.prevout).map WalletTx.txid :=
        (hspent s.txin (List.mem_append_right _ (List.mem_map_of_mem hs))).1
      obtain ⟨t', hspender, htxid⟩ := Option.map_eq_some_iff.mp hnamed.symm
      obtain ⟨ht', hlive, -⟩ := mem_of_spender hspender
      have hsame : t = t' := eq_of_mem_spends ht ht' hst htxid.symm
      exact mem_allSpends.mpr ⟨t, ht, hsame ▸ hlive, hst⟩
    refine ⟨(List.nodup_append.mp honce).2.1, fun s => ⟨hlive s, fun hs => ?_⟩⟩
    obtain ⟨hpaid, t, ht, -⟩ := spender_of_allSpends hs
    have hmem := (hcomplete s.coin.prevout).mpr (List.mem_map.mpr ⟨s.coin, hpaid, rfl⟩)
    rcases List.mem_append.mp hmem with hold | hfound
    · obtain ⟨c, hc, heq⟩ := List.mem_map.mp hold
      have hnone := (mem_unspent.mp hc).2
      rw [heq, ht] at hnone
      cases hnone
    · obtain ⟨s', hs', heq⟩ := List.mem_map.mp hfound
      have hsame : s' = s := List.inj_on_of_nodup_map (spends_nodup address) (hlive s' hs') hs heq
      exact hsame ▸ hs'
  · rintro ⟨hnodup, hall⟩
    refine ⟨fun prevout => ?_, ?_, fun txin htxin => ?_⟩
    · rw [hprevouts, List.mem_append]
      constructor
      · rintro (h | h)
        · obtain ⟨c, hc, rfl⟩ := List.mem_map.mp h
          exact List.mem_map.mpr ⟨c, (mem_unspent.mp hc).1, rfl⟩
        · obtain ⟨s, hs, rfl⟩ := List.mem_map.mp h
          exact List.mem_map.mpr ⟨s.coin, paid_of_drained hs, rfl⟩
      · intro h
        obtain ⟨c, hc, rfl⟩ := List.mem_map.mp h
        cases hspender : w.spender? c.prevout with
        | none => exact .inl (List.mem_map.mpr ⟨c, mem_unspent.mpr ⟨hc, hspender⟩, rfl⟩)
        | some t => exact .inr (List.mem_map.mpr ⟨_, (hall _).mpr (mem_allSpends_of_spender hc hspender), rfl⟩)
    · rw [hprevouts]
      refine List.nodup_append.mpr ⟨?_, hnodup, ?_⟩
      · exact paidTo_nodup.sublist (List.filter_sublist.map _)
      · intro prevout hold prevout' hnew heq
        obtain ⟨c, hc, rfl⟩ := List.mem_map.mp hold
        obtain ⟨s, hs, rfl⟩ := List.mem_map.mp hnew
        obtain ⟨-, t, ht, -⟩ := spender_of_allSpends ((hall s).mp hs)
        rw [← heq, (mem_unspent.mp hc).2] at ht
        cases ht
    · rcases List.mem_append.mp htxin with h | h
      · obtain ⟨c, hc, rfl⟩ := List.mem_map.mp h
        have hnone : w.spender? c.txin.prevout = none := (mem_unspent.mp hc).2
        rw [hnone]
        exact ⟨rfl, rfl⟩
      · obtain ⟨s, hs, rfl⟩ := List.mem_map.mp h
        obtain ⟨-, t, ht, htxid, hheight⟩ := spender_of_allSpends ((hall s).mp hs)
        have hsome : w.spender? s.txin.prevout = some t := ht
        rw [hsome]
        exact ⟨congrArg some htxid, congrArg (fun height : Option Nat => some (height.getD 0)) hheight⟩

/-! ## The entries of a transaction -/

/-- They have what it takes, once for each of its outputs. -/
theorem found_entriesOf (h : address ∈ w.watched) (ht : t ∈ w.txs) :
    (w.entriesOf t).flatMap (w.found address) =
      (List.replicate t.outputs.length (if t.indexed then w.spends address t else [])).flatten := by
  have hreceive : ∀ l : List TxOutput,
      (l.map fun _ => (⟨.receive, t.txid, t.blockheight⟩ : WalletEntry)).flatMap (w.found address) = [] := by
    intro l
    induction l with
    | nil => rfl
    | cons output l ih => exact ih
  have hsend : ∀ l : List TxOutput,
      (l.map fun _ => (⟨.send, t.txid, t.blockheight⟩ : WalletEntry)).flatMap (w.found address) =
        (List.replicate l.length (if t.indexed then w.spends address t else [])).flatten := by
    intro l
    induction l with
    | nil => rfl
    | cons output l ih =>
      rw [List.map_cons, List.flatMap_cons, ih, found_send ht, List.length_cons, List.replicate_succ,
        List.flatten_cons]
  unfold entriesOf
  rw [List.flatMap_append, hreceive, List.append_nil]
  split
  · exact hsend t.outputs
  · next hidle =>
    have hnone : w.spends address t = [] := by
      by_contra hne
      exact hidle (List.any_eq_true.mpr ⟨address, h, spendsFrom_of_spends hne⟩)
    rw [hnone]
    simp

/-- A transaction that takes something from the address is listed. -/
theorem entriesOf_spender (h : address ∈ w.watched) (ht : t ∈ w.txs)
    (hspends : w.spends address t ≠ []) :
    ∃ rest, w.entriesOf t = ⟨.send, t.txid, t.blockheight⟩ :: rest := by
  have hany : (w.watched.any fun address => w.spendsFrom address t) = true :=
    List.any_eq_true.mpr ⟨address, h, spendsFrom_of_spends hspends⟩
  unfold entriesOf
  rw [if_pos hany]
  cases houtputs : t.outputs with
  | nil => exact absurd houtputs (w.outputs_ne_nil t ht)
  | cons output outputs => exact ⟨_, rfl⟩

/-- The search raises at the entries of a transaction that has sent and cannot be had. -/
theorem gone_entriesOf (ht : t ∈ w.txs) : (w.entriesOf t).any w.gone = true ↔
    t.indexed = false ∧ (w.watched.any fun address => w.spendsFrom address t) = true := by
  have hreceive : ∀ l : List TxOutput,
      (l.map fun _ => (⟨.receive, t.txid, t.blockheight⟩ : WalletEntry)).any w.gone = false := by
    intro l
    induction l with
    | nil => rfl
    | cons output l ih => exact ih
  unfold entriesOf
  rw [List.any_append, hreceive, Bool.or_false]
  split
  · next hany =>
    rw [and_iff_left hany]
    cases houtputs : t.outputs with
    | nil => exact absurd houtputs (w.outputs_ne_nil t ht)
    | cons output outputs =>
      rw [List.any_eq_true]
      constructor
      · rintro ⟨entry, hentry, hgone⟩
        obtain ⟨_, -, rfl⟩ := List.mem_map.mp hentry
        rw [gone_send ht] at hgone
        simpa using hgone
      · intro hindexed
        refine ⟨_, List.mem_cons_self, ?_⟩
        rw [gone_send ht, hindexed]
        rfl
  · next hidle => exact iff_of_false (by simp) fun h => hidle h.2

/-! ## The oldest spender -/

/-- The history, seen from the oldest transaction that spends from the address: `pre` is newer, and `post`
spends nothing. -/
structure Oldest (w : Wallet) (address : Address) (oldest : WalletTx) (pre post : List WalletTx) :
    Prop where
  txs : w.txs = pre ++ oldest :: post
  newer : w.newer oldest = pre
  notMem : oldest ∉ pre
  live : oldest.live = true
  spends : w.spends address oldest ≠ []
  idle : ∀ t ∈ post, w.spent address t = []

theorem exists_oldest {oldest : WalletTx} (h : oldest ∈ (w.spenders address).getLast?) :
    ∃ pre post, w.Oldest address oldest pre post := by
  obtain ⟨others, hothers⟩ := List.getLast?_eq_some_iff.mp h
  obtain ⟨l, l', htxs, -, hl'⟩ := List.filter_eq_append_iff.mp hothers
  obtain ⟨m, post, rfl, -, hspends, hpost⟩ := List.filter_eq_cons_iff.mp hl'
  have htxs : w.txs = (l ++ m) ++ oldest :: post := by rw [htxs, List.append_assoc]
  have hnodup : w.txs.Nodup := List.Nodup.of_map _ w.txids_nodup
  have hnotin : oldest ∉ l ++ m := by
    rw [htxs, List.nodup_middle] at hnodup
    exact fun hmem => (List.nodup_cons.mp hnodup).1 (List.mem_append_left _ hmem)
  have hne : w.spent address oldest ≠ [] := of_decide_eq_true hspends
  obtain ⟨s, hs⟩ := List.exists_mem_of_ne_nil _ hne
  have hlive := (mem_spent.mp hs).1
  refine ⟨l ++ m, post, htxs, ?_, hnotin, hlive, spent_of_live hlive ▸ hne, fun t ht => ?_⟩
  · unfold newer
    rw [htxs, List.takeWhile_append_of_pos, List.takeWhile_cons_of_neg (by simp), List.append_nil]
    intro t ht
    simpa using fun heq : t = oldest => hnotin (heq ▸ ht)
  · by_contra hne
    exact List.filter_eq_nil_iff.mp hpost t ht (decide_eq_true hne)

namespace Oldest

variable {oldest : WalletTx} {pre post : List WalletTx}

theorem mem_of_newer (h : w.Oldest address oldest pre post) (ht : t ∈ pre) : t ∈ w.txs := by
  rw [h.txs]
  exact List.mem_append_left _ ht

theorem mem (h : w.Oldest address oldest pre post) : oldest ∈ w.txs := by
  rw [h.txs]
  exact List.mem_append_right _ List.mem_cons_self

theorem entriesBefore (h : w.Oldest address oldest pre post) :
    w.entriesBefore oldest = pre.flatMap w.entriesOf := by
  unfold Wallet.entriesBefore
  rw [h.newer]

theorem listtransactions (h : w.Oldest address oldest pre post) : w.listtransactions =
    w.entriesBefore oldest ++ (w.entriesOf oldest ++ post.flatMap w.entriesOf) := by
  unfold Wallet.listtransactions
  rw [h.entriesBefore, h.txs, List.flatMap_append, List.flatMap_cons]

theorem allSpends (h : w.Oldest address oldest pre post) :
    w.allSpends address = pre.flatMap (w.spent address) ++ w.spends address oldest := by
  unfold Wallet.allSpends
  rw [h.txs, List.flatMap_append, List.flatMap_cons, List.flatMap_eq_nil_iff.mpr h.idle,
    List.append_nil, spent_of_live h.live]

/-- What the entries of the newer transactions have. -/
theorem found (h : w.Oldest address oldest pre post) (haddress : address ∈ w.watched) :
    (w.entriesBefore oldest).flatMap (w.found address) = pre.flatMap fun t =>
      (List.replicate t.outputs.length (if t.indexed then w.spends address t else [])).flatten := by
  rw [h.entriesBefore, List.flatMap_assoc]
  exact List.flatMap_congr fun t ht => found_entriesOf haddress (h.mem_of_newer ht)

end Oldest

/-- Without a spender nothing has been spent. -/
theorem allSpends_of_no_spender (h : (w.spenders address).getLast? = none) :
    w.allSpends address = [] := by
  have hnone : w.spenders address = [] := List.getLast?_eq_none_iff.mp h
  refine List.flatMap_eq_nil_iff.mpr fun t ht => ?_
  by_contra hne
  exact List.filter_eq_nil_iff.mp hnone t ht (decide_eq_true hne)

/-- What is found of a transaction that does not lead astray is what it has spent. -/
theorem spends_of_not_misleads (h : ¬ w.Misleads address t) :
    (if t.indexed then w.spends address t else []) = w.spent address t := by
  unfold spent
  by_cases hlive : t.live = true
  · rw [if_pos hlive, if_pos (indexed_of_live hlive)]
  · rw [if_neg hlive]
    split
    · next hindexed =>
      by_contra hne
      exact h (.inr ⟨hindexed, Bool.not_eq_true _ ▸ hlive, hne⟩)
    · rfl

/-- What the entries before the oldest spender have, if each spender among them has one output. -/
theorem found_before {oldest : WalletTx} {pre post : List WalletTx} (h : address ∈ w.watched)
    (holdest : w.Oldest address oldest pre post)
    (hone : ∀ t ∈ pre, w.spent address t ≠ [] → t.outputs.length = 1)
    (hstraight : ∀ t ∈ pre, ¬ w.Misleads address t) :
    (w.entriesBefore oldest).flatMap (w.found address) = pre.flatMap (w.spent address) := by
  rw [holdest.found h]
  refine List.flatMap_congr fun t ht => ?_
  rw [spends_of_not_misleads (hstraight t ht)]
  by_cases hspends : w.spent address t = []
  · rw [hspends]
    simp
  · rw [hone t ht hspends]
    simp

/-- The search raises before the oldest spender if it comes to a transaction that cannot be had. -/
theorem gone_before {oldest : WalletTx} {pre post : List WalletTx}
    (holdest : w.Oldest address oldest pre post) : (w.entriesBefore oldest).any w.gone = false ↔
      ∀ t ∈ pre, ¬ (t.indexed = false ∧
        (w.watched.any fun address => w.spendsFrom address t) = true) := by
  rw [holdest.entriesBefore, List.any_flatMap, List.any_eq_false]
  refine forall₂_congr fun t ht => not_congr ?_
  exact gone_entriesOf (holdest.mem_of_newer ht)

/-- Under the condition the search ends at the first entry of the oldest spender. -/
theorem searched_of_discoverable (h : address ∈ w.watched) (hd : w.Discoverable address) :
    (w.searched address).any w.gone = false ∧ w.drained address = w.allSpends address := by
  cases holdest : (w.spenders address).getLast? with
  | none =>
    have hnone : w.searched address = [] := by
      unfold searched
      rw [allSpends_of_no_spender holdest]
      exact reads_done _ _ le_rfl _ _
    refine ⟨by rw [hnone]; rfl, ?_⟩
    show (w.searched address).flatMap (w.found address) = _
    rw [hnone, allSpends_of_no_spender holdest]
    rfl
  | some oldest =>
    obtain ⟨hone, ⟨s, hs, hvalue⟩, hlength, hstraight⟩ := hd oldest holdest
    obtain ⟨pre, post, hsplit⟩ := exists_oldest holdest
    rw [hsplit.newer] at hstraight
    have hfound := found_before h hsplit (fun t ht hspends => by
      refine hone t (List.mem_filter.mpr ⟨hsplit.mem_of_newer ht, decide_eq_true hspends⟩) fun heq => ?_
      exact hsplit.notMem (heq ▸ ht)) hstraight
    have hall := hsplit.allSpends
    have hworth : 0 < worth Spend.value (w.spends address oldest) :=
      (worth_pos _).mpr ⟨s, hs, hvalue⟩
    -- the first entry of the oldest spender
    obtain ⟨rest, hentries⟩ := entriesOf_spender h hsplit.mem hsplit.spends
    have hfoundOldest : w.found address ⟨.send, oldest.txid, oldest.blockheight⟩
        = w.spends address oldest := by
      rw [found_send hsplit.mem, if_pos (indexed_of_live hsplit.live)]
    obtain ⟨limit, hlimit⟩ : ∃ limit, 200 - (w.entriesBefore oldest).length = limit + 1 :=
      ⟨199 - (w.entriesBefore oldest).length, by omega⟩
    have hreads : w.searched address = w.entriesBefore oldest ++
        [⟨.send, oldest.txid, oldest.blockheight⟩] := by
      unfold searched
      rw [hall, hsplit.listtransactions, hentries, List.cons_append]
      rw [reads_append _ _ (Nat.le_of_lt hlength) (by rw [hfound, worth_append]; push_cast; omega)]
      rw [hfound, hlimit, worth_append]
      push_cast
      rw [add_sub_cancel_left, reads_cons _ _ (by exact_mod_cast hworth), hfoundOldest, sub_self,
        reads_done _ _ le_rfl]
    constructor
    · rw [hreads, List.any_append, List.any_cons, gone_send hsplit.mem, indexed_of_live hsplit.live,
        (gone_before hsplit).mpr fun t ht hmissing => hstraight t ht (.inl hmissing)]
      rfl
    · show (w.searched address).flatMap (w.found address) = _
      rw [hreads, List.flatMap_append, hfound, List.flatMap_singleton, hfoundOldest, hall]

/-- Something that is there several times and without duplicates is there once. -/
theorem length_eq_one_of_nodup {α β : Type} {l : List α} {m : List β} (hl : l ≠ []) (hm : m ≠ [])
    (h : (List.replicate m.length l).flatten.Nodup) : m.length = 1 := by
  cases m with
  | nil => exact absurd rfl hm
  | cons b m =>
    cases m with
    | nil => rfl
    | cons b' m =>
      obtain ⟨a, ha⟩ := List.exists_mem_of_ne_nil _ hl
      rw [List.length_cons, List.length_cons, List.replicate_succ, List.replicate_succ,
        List.flatten_cons, List.flatten_cons] at h
      exact absurd rfl ((List.nodup_append.mp h).2.2 a ha a (List.mem_append_left _ ha))

/-- Before the oldest spender the search has read everything. -/
theorem reads_before {oldest : WalletTx} {pre post : List WalletTx} (h : address ∈ w.watched)
    (holdest : w.Oldest address oldest pre post)
    (hall : ∀ s ∈ w.allSpends address, s ∈ w.drained address) :
    (w.entriesBefore oldest).length < 200 ∧
      (worth Spend.value ((w.entriesBefore oldest).flatMap (w.found address)) : Int) <
        worth Spend.value (w.allSpends address) ∧
      ∃ rest, w.searched address = w.entriesBefore oldest ++ rest := by
  obtain ⟨s, hs⟩ := List.exists_mem_of_ne_nil _ holdest.spends
  have hdrained : s ∈ w.drained address :=
    hall s (mem_allSpends.mpr ⟨oldest, holdest.mem, holdest.live, hs⟩)
  -- what the oldest spender spends is found behind its own entries only
  have hnew : s ∉ (w.entriesBefore oldest).flatMap (w.found address) := by
    rw [holdest.found h]
    intro hmem
    obtain ⟨t, ht, hfound⟩ := List.mem_flatMap.mp hmem
    obtain ⟨l, hl, hsl⟩ := List.mem_flatten.mp hfound
    rw [List.eq_of_mem_replicate hl] at hsl
    split at hsl
    · have hsame : t = oldest :=
        eq_of_mem_spends (holdest.mem_of_newer ht) holdest.mem hsl (mem_spends.mp hs).2.2.1
      exact holdest.notMem (hsame ▸ ht)
    · cases hsl
  unfold drained at hdrained
  rw [holdest.listtransactions] at hdrained
  obtain ⟨hlength, hworth⟩ := drain_reaches _ _ hdrained hnew
  refine ⟨hlength, hworth, ?_⟩
  unfold searched
  rw [holdest.listtransactions, reads_append _ _ (Nat.le_of_lt hlength) hworth]
  exact ⟨_, rfl⟩

theorem discoverable_of_drained (h : address ∈ w.watched)
    (hgone : (w.searched address).any w.gone = false)
    (hnodup : ((w.drained address).map fun s => s.coin.prevout).Nodup)
    (hall : ∀ s, s ∈ w.drained address ↔ s ∈ w.allSpends address) : w.Discoverable address := by
  intro oldest holdest
  obtain ⟨pre, post, hsplit⟩ := exists_oldest holdest
  obtain ⟨hlength, hworth, rest, hsearched⟩ := reads_before h hsplit fun s => (hall s).mpr
  have hdrained : w.drained address = (w.entriesBefore oldest).flatMap (w.found address) ++
      rest.flatMap (w.found address) := by
    show (w.searched address).flatMap (w.found address) = _
    rw [hsearched, List.flatMap_append]
  rw [hsplit.found h] at hdrained hworth
  refine ⟨fun t ht hother => ?_, ?_, hlength, fun t ht => ?_⟩
  · obtain ⟨htMem, htSpends⟩ := List.mem_filter.mp ht
    have htNe : w.spent address t ≠ [] := of_decide_eq_true htSpends
    have htPre : t ∈ pre := by
      rw [hsplit.txs] at htMem
      rcases List.mem_append.mp htMem with hpre | htail
      · exact hpre
      · rcases List.mem_cons.mp htail with heq | htPost
        · exact absurd heq hother
        · exact absurd (hsplit.idle t htPost) htNe
    -- the entries before the oldest spender have nothing twice
    rw [hdrained, List.map_append] at hnodup
    have honce := List.Nodup.of_map _ (List.nodup_append.mp hnodup).1
    have htOnce := (List.nodup_flatMap.mp honce).1 t htPre
    obtain ⟨s, hs⟩ := List.exists_mem_of_ne_nil _ htNe
    have hlive := (mem_spent.mp hs).1
    rw [if_pos (indexed_of_live hlive), ← spent_of_live hlive] at htOnce
    exact length_eq_one_of_nodup htNe (w.outputs_ne_nil t htMem) htOnce
  · -- what the newer ones spend is worth less than everything
    have hle : worth Spend.value (pre.flatMap (w.spent address)) ≤ worth Spend.value (pre.flatMap fun t =>
        (List.replicate t.outputs.length (if t.indexed then w.spends address t else [])).flatten) := by
      refine worth_flatMap_le _ fun t ht => ?_
      unfold spent
      split
      · next hlive =>
        obtain ⟨n, hn⟩ := Nat.exists_eq_succ_of_ne_zero
          (Nat.ne_of_gt (List.length_pos_iff.mpr (w.outputs_ne_nil t (hsplit.mem_of_newer ht))))
        rw [if_pos (indexed_of_live hlive), hn, List.replicate_succ, List.flatten_cons, worth_append]
        exact Nat.le_add_right _ _
      · exact Nat.zero_le _
    rw [hsplit.allSpends, worth_append] at hworth
    push_cast at hworth
    exact (worth_pos _).mp (by omega)
  · rw [hsplit.newer] at ht
    rintro (hmissing | ⟨hindexed, hdisplaced, htakes⟩)
    · -- the search has read its entries
      rw [hsearched, List.any_append] at hgone
      exact (gone_before hsplit).mp (Bool.or_eq_false_iff.mp hgone).1 t ht hmissing
    · have htMem := hsplit.mem_of_newer ht
      obtain ⟨s, hs⟩ := List.exists_mem_of_ne_nil _ htakes
      have hsfound : s ∈ w.drained address := by
        rw [hdrained]
        refine List.mem_append_left _ (List.mem_flatMap.mpr ⟨t, ht, List.mem_flatten.mpr ⟨_, ?_, hs⟩⟩)
        rw [if_pos hindexed]
        exact List.mem_replicate.mpr ⟨Nat.ne_of_gt (List.length_pos_iff.mpr
          (w.outputs_ne_nil t htMem)), rfl⟩
      obtain ⟨t', ht', hlive, hst⟩ := mem_allSpends.mp ((hall s).mp hsfound)
      have hsame : t' = t := eq_of_mem_spends ht' htMem hst (mem_spends.mp hs).2.2.1
      rw [hsame, hdisplaced] at hlive
      cases hlive

/-- **The outputs of an address are discovered** exactly under the condition. -/
theorem addr_outputs_complete_iff (w : Wallet) (address : Address) (h : address ∈ w.watched) :
    (∃ txins, w.getAddrOutputs address = .ok txins ∧ w.Discovers address txins) ↔
      w.Discoverable address := by
  rw [getAddrOutputs_eq h]
  constructor
  · rintro ⟨txins, hok, hdiscovers⟩
    split at hok
    · cases hok
    · next hgone =>
      split at hok
      · cases hok
      · cases hok
        obtain ⟨hnodup, hall⟩ := (discovers_iff w address).mp hdiscovers
        exact discoverable_of_drained h (Bool.not_eq_true _ ▸ hgone) hnodup hall
  · intro hd
    obtain ⟨hgone, hdrained⟩ := searched_of_discoverable h hd
    have henough : ¬ (0 : Int) < (worth Spend.value (w.allSpends address) : Int) -
        worth Spend.value (w.drained address) * COIN := by
      rw [hdrained]
      have hcoin : (1 : Int) ≤ COIN := by norm_num [COIN]
      nlinarith [Int.natCast_nonneg (worth Spend.value (w.allSpends address))]
    rw [if_neg (Bool.not_eq_true _ ▸ hgone), if_neg henough]
    refine ⟨_, rfl, (discovers_iff w address).mpr ⟨?_, ?_⟩⟩
    · rw [hdrained]
      exact spends_nodup address
    · intro s
      rw [hdrained]

/-! ## A second output -/

section Sample

/-- Some txid. -/
def sampleTxid (n : Nat) : Txid := List.replicate 32 (UInt8.ofNat n)

/-- A transaction pays the lockup address of a swap, and the claim of the swap spends what it paid. -/
def claimedOnce : Wallet where
  watched := ["bcrt1qlockup"]
  txs := [
    { txid := sampleTxid 2, inputs := [⟨sampleTxid 1, 0⟩]
      outputs := [⟨"bcrt1qreceive", 990000⟩], blockheight := none },
    { txid := sampleTxid 1, inputs := [⟨sampleTxid 9, 0⟩]
      outputs := [⟨"bcrt1qlockup", 1000000⟩, ⟨"bcrt1qchange", 5000000⟩]
      blockheight := some 900001 }]
  txids_nodup := by decide +kernel
  live_spent_once := by decide +kernel
  outputs_ne_nil := by decide +kernel
  spends_outputs := by decide +kernel

/-- Its output is found, and found to be spent. -/
theorem addr_outputs_complete_claimed :
    ((∃ txins, claimedOnce.getAddrOutputs "bcrt1qlockup" = .ok txins ∧
        claimedOnce.Discovers "bcrt1qlockup" txins) ↔ claimedOnce.Discoverable "bcrt1qlockup") ∧
      claimedOnce.Discoverable "bcrt1qlockup" :=
  ⟨addr_outputs_complete_iff claimedOnce "bcrt1qlockup" (by decide +kernel), by decide +kernel⟩

/-- The address is paid twice, and the newer of the two claims has an output for change. -/
def claimedTwice : Wallet where
  watched := ["bcrt1qlockup"]
  txs := [
    { txid := sampleTxid 4, inputs := [⟨sampleTxid 3, 0⟩]
      outputs := [⟨"bcrt1qreceive", 500000⟩, ⟨"bcrt1qchange", 490000⟩], blockheight := none },
    { txid := sampleTxid 2, inputs := [⟨sampleTxid 1, 0⟩]
      outputs := [⟨"bcrt1qreceive", 990000⟩], blockheight := some 900003 },
    { txid := sampleTxid 3, inputs := [⟨sampleTxid 8, 0⟩]
      outputs := [⟨"bcrt1qlockup", 1000000⟩], blockheight := some 900002 },
    { txid := sampleTxid 1, inputs := [⟨sampleTxid 9, 0⟩]
      outputs := [⟨"bcrt1qlockup", 1000000⟩], blockheight := some 900001 }]
  txids_nodup := by decide +kernel
  live_spent_once := by decide +kernel
  outputs_ne_nil := by decide +kernel
  spends_outputs := by decide +kernel

/-- What the newer claim spends is found twice, and what the older one spends is missed. -/
theorem addr_outputs_twice :
    "bcrt1qlockup" ∈ claimedTwice.watched ∧
      ¬ ∃ txins, claimedTwice.getAddrOutputs "bcrt1qlockup" = .ok txins ∧
        claimedTwice.Discovers "bcrt1qlockup" txins := by
  refine ⟨by decide, ?_⟩
  rintro ⟨txins, hok, hdiscovers⟩
  have hcomputed : (claimedTwice.getAddrOutputs "bcrt1qlockup").map
      (fun txins => decide (txins.map PartialTxInput.prevout).Nodup) = .ok false := by decide +kernel
  rw [hok] at hcomputed
  have hrepeated : decide (txins.map PartialTxInput.prevout).Nodup = false :=
    Except.ok.inj hcomputed
  exact of_decide_eq_false hrepeated hdiscovers.once

/-- The swap has been claimed; the client of another swap has claimed, too, and then replaced the claim by
one with a higher fee. -/
def otherReplaced : Wallet where
  watched := ["bcrt1qother", "bcrt1qlockup"]
  txs := [
    { txid := sampleTxid 6, inputs := [⟨sampleTxid 3, 0⟩]
      outputs := [⟨"bcrt1qreceive", 980000⟩], blockheight := none },
    { txid := sampleTxid 5, inputs := [⟨sampleTxid 3, 0⟩]
      outputs := [⟨"bcrt1qreceive", 990000⟩], blockheight := none
      standing := .displaced false false },
    { txid := sampleTxid 2, inputs := [⟨sampleTxid 1, 0⟩]
      outputs := [⟨"bcrt1qreceive", 990000⟩], blockheight := some 900003 },
    { txid := sampleTxid 3, inputs := [⟨sampleTxid 8, 0⟩]
      outputs := [⟨"bcrt1qother", 1000000⟩], blockheight := some 900002 },
    { txid := sampleTxid 1, inputs := [⟨sampleTxid 9, 0⟩]
      outputs := [⟨"bcrt1qlockup", 1000000⟩], blockheight := some 900001 }]
  txids_nodup := by decide +kernel
  live_spent_once := by decide +kernel
  outputs_ne_nil := by decide +kernel
  spends_outputs := by decide +kernel

/-- The search for the one claim comes across the other one that has been replaced, and raises. -/
theorem addr_outputs_replaced : "bcrt1qlockup" ∈ otherReplaced.watched ∧
    otherReplaced.getAddrOutputs "bcrt1qlockup" = .error .AttributeError := by
  have hwatched : "bcrt1qlockup" ∈ otherReplaced.watched := by decide
  rw [getAddrOutputs_eq hwatched]
  exact ⟨hwatched, if_pos (by decide +kernel)⟩

end Sample

end Wallet

end SubswapProvider
