import SubswapProvider.Bitcoin
import SubswapProvider.Library.Dict

/-!
# HTLCs and hold invoices

The data of `invoices.py`: an HTLC held for the plugin, the set of HTLCs of a hold invoice, and the
hold invoice itself. `Htlc.__eq__` compares the channel, the HTLC's number and its amount; a set of
HTLCs holds no two equal ones, which `HtlcSet` carries as a field.

What the plugin *does* with them (fail, settle, fund) changes the process's tables and answers
lightningd, so it is in `Lightning.lean`.
-/

namespace SubswapProvider

/-- The text `b.hex()` of some bytes. Tables of the plugin are keyed by such texts; a `bytes` object
is never equal to one, which is why the two have different types here. -/
structure Hex where
  bytes : Bytes
  deriving DecidableEq

/-- `b.hex()`. -/
def hex (b : Bytes) : Hex := ⟨b⟩

@[simp] theorem hex_bytes (b : Bytes) : (hex b).bytes = b := rfl

@[simp] theorem hex_inj {a b : Bytes} : hex a = hex b ↔ a = b :=
  ⟨fun h => congrArg Hex.bytes h, congrArg hex⟩

/-- A payment hash handed around as either type. -/
inductive PyKey
  | bytes (b : Bytes)
  | str (h : Hex)

/-- `k in d` for a dictionary keyed by `str`. -/
def PyKey.isIn {α : Type} (k : PyKey) (d : Dict Hex α) : Bool :=
  match k with
  | .bytes _ => false
  | .str h => d.contains h

/-- The exceptions the modelled code raises or tells apart. -/
inductive PyErr
  | AssertionError | AttributeError | IndexError | KeyError | TypeError | ValueError
  | SerializationError | RpcError | BitcoinCoreRPCError | TxBroadcastError | BelowDustLimit
  | StorageReadWriteError | InvalidHtlcState | InsufficientFundedInvoiceError
  | DuplicateInvoiceCreationError | InvalidInvoiceCreationError | Bolt11InvoiceCreationError
  | InvalidPreimageFoundError | InvalidPreimageSavedError | RestartLoop
  deriving DecidableEq

/-! ## HTLCs -/

/-- The `htlc` argument of the `htlc_accepted` hook. -/
structure IncomingHtlc where
  paymentHash : Bytes
  shortChannelId : String
  id : Nat
  amountMsat : Nat
  cltvExpiryRelative : Nat
  deriving DecidableEq

/-- The request object of one hook call: the HTLC it is about, and its own identity. -/
structure Request where
  serial : Nat
  htlc : IncomingHtlc
  deriving DecidableEq

/-- What `request.set_result` is called with. -/
inductive HookResult
  | continue_
  | fail (failureMessage : String)
  | resolve (paymentKey : Bytes)
  deriving DecidableEq

inductive HtlcState
  | settled | accepted | cancelled
  deriving DecidableEq

/-- What `Htlc.__eq__` compares. -/
structure HtlcKey where
  shortChannelId : String
  channelId : Nat
  amountMsat : Nat
  deriving DecidableEq

structure Htlc where
  state : HtlcState
  shortChannelId : String
  channelId : Nat
  amountMsat : Nat
  createdAt : Nat
  requestCallback : Option Request
  deriving DecidableEq

namespace Htlc

def key (h : Htlc) : HtlcKey := ⟨h.shortChannelId, h.channelId, h.amountMsat⟩

/-- `Htlc.from_cln_dict`. -/
def fromClnDict (d : IncomingHtlc) (request : Request) (now : Nat) : Htlc where
  state := .accepted
  shortChannelId := d.shortChannelId
  channelId := d.id
  amountMsat := d.amountMsat
  createdAt := now
  requestCallback := some request

/-- The HTLC as `to_json` writes it: everything but the callback. -/
def stored (h : Htlc) : Htlc := { h with requestCallback := none }

/-- `is_fully_funded` counts the accepted and the settled HTLCs. -/
def counted (h : Htlc) : Bool := h.state = .accepted ∨ h.state = .settled

end Htlc

/-- The key of the HTLC a request is about. -/
def IncomingHtlc.key (d : IncomingHtlc) : HtlcKey := ⟨d.shortChannelId, d.id, d.amountMsat⟩

@[simp] theorem Htlc.key_fromClnDict (d : IncomingHtlc) (r : Request) (now : Nat) :
    (Htlc.fromClnDict d r now).key = d.key := rfl

@[simp] theorem Htlc.key_stored (h : Htlc) : h.stored.key = h.key := rfl

/-! ## Sets of HTLCs -/

/-- A set of HTLCs, in the order it is iterated: no two of its elements are equal. -/
structure HtlcSet where
  elems : List Htlc
  nodup : (elems.map Htlc.key).Nodup

namespace HtlcSet

@[ext] theorem ext {s t : HtlcSet} (h : s.elems = t.elems) : s = t := by
  cases s; cases t; cases h; rfl

instance : DecidableEq HtlcSet := fun s t =>
  decidable_of_iff (s.elems = t.elems) ⟨HtlcSet.ext, fun h => h ▸ rfl⟩

/-- `set()`. -/
def empty : HtlcSet := ⟨[], List.nodup_nil⟩

instance : EmptyCollection HtlcSet := ⟨empty⟩

instance : Membership Htlc HtlcSet := ⟨fun s h => h ∈ s.elems⟩

/-- `for stored_htlc in self.incoming_htlcs: if stored_htlc == new_htlc`. -/
def find? (s : HtlcSet) (k : HtlcKey) : Option Htlc := s.elems.find? fun h => h.key = k

/-- `s.add(h)`. -/
def add (s : HtlcSet) (h : Htlc) : HtlcSet :=
  if hk : h.key ∈ s.elems.map Htlc.key then s
  else ⟨s.elems ++ [h], by
    rw [List.map_append]
    exact s.nodup.append (List.nodup_singleton _) (by simpa using hk)⟩

/-- Change every element in a way that keeps what `__eq__` compares. -/
def map (f : Htlc → Htlc) (hf : ∀ h, (f h).key = h.key) (s : HtlcSet) : HtlcSet :=
  ⟨s.elems.map f, by
    rw [List.map_map, show Htlc.key ∘ f = Htlc.key from funext hf]
    exact s.nodup⟩

/-- Change the element equal to `k`, in place. -/
def modify (k : HtlcKey) (f : Htlc → Htlc) (hf : ∀ h, (f h).key = h.key) (s : HtlcSet) : HtlcSet :=
  s.map (fun h => if h.key = k then f h else h) fun h => by
    by_cases hk : h.key = k
    · simp [hk, hf]
    · simp [hk]

/-- The set iterated in another order. -/
def reorder (order : List Htlc) (s : HtlcSet) : HtlcSet :=
  if h : order.Perm s.elems then ⟨order, (h.map Htlc.key).nodup_iff.mpr s.nodup⟩ else s

/-- The millisatoshis of the elements that satisfy `p`. -/
def msat (p : Htlc → Bool) (s : HtlcSet) : Nat := ((s.elems.filter p).map (·.amountMsat)).sum

theorem mem_def {s : HtlcSet} {h : Htlc} : h ∈ s ↔ h ∈ s.elems := Iff.rfl

@[simp] theorem notMem_empty (h : Htlc) : h ∉ (∅ : HtlcSet) := List.not_mem_nil

/-- Two elements of a set that are equal for `__eq__` are one element. -/
theorem eq_of_key {s : HtlcSet} {a b : Htlc} (ha : a ∈ s) (hb : b ∈ s) (h : a.key = b.key) :
    a = b :=
  List.inj_on_of_nodup_map s.nodup ha hb h

theorem find?_eq_none {s : HtlcSet} {k : HtlcKey} : s.find? k = none ↔ ∀ h ∈ s, h.key ≠ k := by
  unfold find?
  rw [List.find?_eq_none]
  exact ⟨fun h a ha => by simpa using h a ha, fun h a ha => by simpa using h a ha⟩

theorem mem_of_find? {s : HtlcSet} {k : HtlcKey} {h : Htlc} (hf : s.find? k = some h) :
    h ∈ s ∧ h.key = k :=
  ⟨List.mem_of_find?_eq_some hf, by simpa using List.find?_some hf⟩

theorem mem_add {s : HtlcSet} {h a : Htlc} (hk : s.find? h.key = none) :
    a ∈ s.add h ↔ a ∈ s ∨ a = h := by
  have hnot : h.key ∉ s.elems.map Htlc.key := by
    intro hm
    obtain ⟨b, hb, hbk⟩ := List.mem_map.mp hm
    exact find?_eq_none.mp hk b hb hbk
  unfold add
  rw [dif_neg hnot]
  simp [mem_def]

theorem mem_map {s : HtlcSet} {f : Htlc → Htlc} (hf : ∀ h, (f h).key = h.key) {a : Htlc} :
    a ∈ s.map f hf ↔ ∃ b ∈ s, f b = a :=
  List.mem_map

/-- A change that keeps amounts and what `p` says of an element keeps the sum. -/
theorem msat_map {p : Htlc → Bool} {f : Htlc → Htlc} {hf : ∀ h, (f h).key = h.key} {s : HtlcSet}
    (hp : ∀ h ∈ s, p (f h) = p h) : (s.map f hf).msat p = s.msat p := by
  obtain ⟨l, hl⟩ := s
  show ((((l.map f).filter p)).map (·.amountMsat)).sum = ((l.filter p).map (·.amountMsat)).sum
  have hamt : ∀ h, (f h).amountMsat = h.amountMsat := fun h => congrArg HtlcKey.amountMsat (hf h)
  have hp' : ∀ h ∈ l, p (f h) = p h := hp
  clear hp hl
  induction l with
  | nil => rfl
  | cons a l ih =>
    have ha : p (f a) = p a := hp' a List.mem_cons_self
    have hl := ih fun h hh => hp' h (List.mem_cons_of_mem a hh)
    rw [List.map_cons, List.filter_cons, List.filter_cons, ha]
    by_cases hpa : p a = true
    · rw [if_pos hpa, if_pos hpa, List.map_cons, List.map_cons, List.sum_cons, List.sum_cons, hl,
        hamt]
    · rw [if_neg hpa, if_neg hpa, hl]

/-- A change that loses no element that satisfies `p` does not make the sum smaller. -/
theorem msat_le_map {p : Htlc → Bool} {f : Htlc → Htlc} {hf : ∀ h, (f h).key = h.key} {s : HtlcSet}
    (hp : ∀ h ∈ s, p h = true → p (f h) = true) : s.msat p ≤ (s.map f hf).msat p := by
  obtain ⟨l, hl⟩ := s
  show ((l.filter p).map (·.amountMsat)).sum ≤ ((((l.map f).filter p)).map (·.amountMsat)).sum
  have hamt : ∀ h, (f h).amountMsat = h.amountMsat := fun h => congrArg HtlcKey.amountMsat (hf h)
  have hp' : ∀ h ∈ l, p h = true → p (f h) = true := hp
  clear hp hl
  induction l with
  | nil => exact Nat.le_refl _
  | cons a l ih =>
    have ih := ih fun h hh => hp' h (List.mem_cons_of_mem a hh)
    rw [List.map_cons, List.filter_cons, List.filter_cons]
    by_cases hpa : p a = true
    · rw [if_pos hpa, if_pos (hp' a List.mem_cons_self hpa), List.map_cons, List.map_cons,
        List.sum_cons, List.sum_cons, hamt]
      exact Nat.add_le_add_left ih _
    · rw [if_neg hpa]
      split
      · rw [List.map_cons, List.sum_cons]
        omega
      · exact ih

/-- Adding an element does not make the sum smaller. -/
theorem msat_le_add (p : Htlc → Bool) (s : HtlcSet) (h : Htlc) : s.msat p ≤ (s.add h).msat p := by
  unfold add
  split
  · exact Nat.le_refl _
  · show ((s.elems.filter p).map (·.amountMsat)).sum
      ≤ (((s.elems ++ [h]).filter p).map (·.amountMsat)).sum
    rw [List.filter_append, List.map_append, List.sum_append]
    exact Nat.le_add_right _ _

/-- Nor does a change of one element that keeps it satisfying `p`. -/
theorem msat_le_modify {p : Htlc → Bool} {k : HtlcKey} {f : Htlc → Htlc}
    {hf : ∀ h, (f h).key = h.key} {s : HtlcSet} (hp : ∀ h, p h = true → p (f h) = true) :
    s.msat p ≤ (s.modify k f hf).msat p := by
  refine msat_le_map fun a _ ha => ?_
  split
  · exact hp a ha
  · exact ha

/-- A new element comes last. -/
theorem elems_add {s : HtlcSet} {h : Htlc} (hk : s.find? h.key = none) :
    (s.add h).elems = s.elems ++ [h] := by
  unfold add
  rw [dif_neg]
  intro hm
  obtain ⟨b, hb, hbk⟩ := List.mem_map.mp hm
  exact find?_eq_none.mp hk b hb hbk

/-- A change of the element that has just been added. -/
theorem elems_modify_add {s : HtlcSet} {h : Htlc} (hk : s.find? h.key = none) {f : Htlc → Htlc}
    (hf : ∀ h, (f h).key = h.key) : ((s.add h).modify h.key f hf).elems = s.elems ++ [f h] := by
  have hne := find?_eq_none.mp hk
  show (s.add h).elems.map (fun a => if a.key = h.key then f a else a) = _
  rw [elems_add hk, List.map_append]
  congr 1
  · calc s.elems.map (fun a => if a.key = h.key then f a else a)
        = s.elems.map id := List.map_congr_left fun a ha => if_neg (hne a ha)
      _ = s.elems := List.map_id _
  · simp

/-- Nor does changing an element that has just been added. -/
theorem msat_le_modify_add {p : Htlc → Bool} {s : HtlcSet} {h : Htlc} {k : HtlcKey}
    (hkey : h.key = k) (hk : s.find? k = none) {f : Htlc → Htlc} {hf : ∀ h, (f h).key = h.key} :
    s.msat p ≤ ((s.add h).modify k f hf).msat p := by
  subst hkey
  unfold msat
  rw [elems_modify_add hk, List.filter_append, List.map_append, List.sum_append]
  exact Nat.le_add_right _ _

/-- The order of iteration does not matter. -/
theorem msat_reorder (p : Htlc → Bool) (order : List Htlc) (s : HtlcSet) :
    (s.reorder order).msat p = s.msat p := by
  unfold reorder
  split
  · next h => exact ((h.filter p).map _).sum_eq
  · rfl

theorem mem_reorder {order : List Htlc} {s : HtlcSet} {h : Htlc} : h ∈ s.reorder order ↔ h ∈ s := by
  unfold reorder
  split
  · next hperm => exact hperm.mem_iff
  · rfl

/-- Two conditions that agree on the elements sum the same. -/
theorem msat_congr {p q : Htlc → Bool} {s : HtlcSet} (h : ∀ a ∈ s, p a = q a) :
    s.msat p = s.msat q := by
  unfold msat
  rw [List.filter_congr fun a ha => h a ha]

end HtlcSet

/-! ## Hold invoices -/

inductive InvoiceState
  | settled | funded | unfunded | failed
  deriving DecidableEq

structure HoldInvoice where
  paymentHash : Bytes
  bolt11 : String
  amountMsat : Int
  expiry : Nat
  incomingHtlcs : HtlcSet
  fundingStatus : InvoiceState
  createdAt : Nat
  associatedInvoice : Option Bytes
  deriving DecidableEq

namespace HoldInvoice

/-- `HoldInvoice(payment_hash, bolt11, amount_msat, expiry)`. -/
def new (paymentHash : Bytes) (bolt11 : String) (amountMsat : Int) (expiry now : Nat) :
    HoldInvoice where
  paymentHash := paymentHash
  bolt11 := bolt11
  amountMsat := amountMsat
  expiry := expiry
  incomingHtlcs := ∅
  fundingStatus := .unfunded
  createdAt := now
  associatedInvoice := none

/-- `is_fully_funded`. -/
def isFullyFunded (inv : HoldInvoice) : Bool :=
  inv.amountMsat ≤ (inv.incomingHtlcs.msat Htlc.counted : Int)

/-- The millisatoshis of the HTLCs in a state. -/
def msatIn (inv : HoldInvoice) (st : HtlcState) : Int :=
  (inv.incomingHtlcs.msat fun h => h.state = st : Nat)

/-- `find_htlc`. -/
def findHtlc (inv : HoldInvoice) (new_htlc : HtlcKey) : Option Htlc :=
  inv.incomingHtlcs.find? new_htlc

/-- `self.incoming_htlcs.add(htlc)`. -/
def addHtlc (htlc : Htlc) (inv : HoldInvoice) : HoldInvoice :=
  { inv with incomingHtlcs := inv.incomingHtlcs.add htlc }

/-- `htlc.state = st`, on the HTLC of the invoice that equals `k`. -/
def setHtlcState (k : HtlcKey) (st : HtlcState) (inv : HoldInvoice) : HoldInvoice :=
  { inv with
    incomingHtlcs := inv.incomingHtlcs.modify k (fun h => { h with state := st }) fun _ => rfl }

/-- `htlc.request_callback = r`, on the HTLC of the invoice that equals `k`. -/
def setHtlcCallback (k : HtlcKey) (r : Request) (inv : HoldInvoice) : HoldInvoice :=
  { inv with
    incomingHtlcs :=
      inv.incomingHtlcs.modify k (fun h => { h with requestCallback := some r }) fun _ => rfl }

/-- `self.funding_status = st`. -/
def setFundingStatus (st : InvoiceState) (inv : HoldInvoice) : HoldInvoice :=
  { inv with fundingStatus := st }

/-- The same invoice, its set of HTLCs iterated in another order. -/
def reorderHtlcs (order : List Htlc) (inv : HoldInvoice) : HoldInvoice :=
  { inv with incomingHtlcs := inv.incomingHtlcs.reorder order }

/-- The invoice as `to_json` writes it and `__init__` reads it back. -/
def stored (inv : HoldInvoice) : HoldInvoice :=
  { inv with incomingHtlcs := inv.incomingHtlcs.map Htlc.stored Htlc.key_stored }

@[simp] theorem paymentHash_addHtlc (htlc : Htlc) (inv : HoldInvoice) :
    (inv.addHtlc htlc).paymentHash = inv.paymentHash := rfl

@[simp] theorem paymentHash_setHtlcState (k : HtlcKey) (st : HtlcState) (inv : HoldInvoice) :
    (inv.setHtlcState k st).paymentHash = inv.paymentHash := rfl

@[simp] theorem paymentHash_setHtlcCallback (k : HtlcKey) (r : Request) (inv : HoldInvoice) :
    (inv.setHtlcCallback k r).paymentHash = inv.paymentHash := rfl

@[simp] theorem paymentHash_setFundingStatus (st : InvoiceState) (inv : HoldInvoice) :
    (inv.setFundingStatus st).paymentHash = inv.paymentHash := rfl

@[simp] theorem paymentHash_stored (inv : HoldInvoice) :
    inv.stored.paymentHash = inv.paymentHash := rfl

@[simp] theorem fundingStatus_stored (inv : HoldInvoice) :
    inv.stored.fundingStatus = inv.fundingStatus := rfl

@[simp] theorem isFullyFunded_stored (inv : HoldInvoice) :
    inv.stored.isFullyFunded = inv.isFullyFunded := by
  have h : (inv.incomingHtlcs.map Htlc.stored Htlc.key_stored).msat Htlc.counted
      = inv.incomingHtlcs.msat Htlc.counted := HtlcSet.msat_map fun _ _ => rfl
  show decide (_ ≤ ((HtlcSet.msat _ (inv.incomingHtlcs.map Htlc.stored Htlc.key_stored) : Nat) : Int))
    = _
  rw [h]
  rfl

variable {inv : HoldInvoice} {k : HtlcKey} {a : Htlc}

theorem mem_setHtlcState {st : HtlcState} : a ∈ (inv.setHtlcState k st).incomingHtlcs ↔
    ∃ b ∈ inv.incomingHtlcs, (if b.key = k then { b with state := st } else b) = a :=
  List.mem_map

theorem mem_setHtlcCallback {r : Request} : a ∈ (inv.setHtlcCallback k r).incomingHtlcs ↔
    ∃ b ∈ inv.incomingHtlcs, (if b.key = k then { b with requestCallback := some r } else b) = a :=
  List.mem_map

theorem mem_addHtlc {htlc : Htlc} (h : inv.findHtlc htlc.key = none) :
    a ∈ (inv.addHtlc htlc).incomingHtlcs ↔ a ∈ inv.incomingHtlcs ∨ a = htlc :=
  HtlcSet.mem_add h

theorem mem_stored : a ∈ inv.stored.incomingHtlcs ↔ ∃ b ∈ inv.incomingHtlcs, b.stored = a :=
  HtlcSet.mem_map Htlc.key_stored

/-- A sum that has been reached stays reached when the counted HTLCs do not get fewer. -/
theorem isFullyFunded_mono {inv' : HoldInvoice} (h : inv.isFullyFunded = true)
    (hamount : inv'.amountMsat = inv.amountMsat)
    (hmsat : inv.incomingHtlcs.msat Htlc.counted ≤ inv'.incomingHtlcs.msat Htlc.counted) :
    inv'.isFullyFunded = true := by
  have h' : inv.amountMsat ≤ (inv.incomingHtlcs.msat Htlc.counted : Int) := of_decide_eq_true h
  apply decide_eq_true
  omega

end HoldInvoice

/-- The `hold_invoices` table: an invoice is stored under its own payment hash. -/
structure HoldInvoices where
  dict : Dict Hex HoldInvoice
  keyed : ∀ k inv, dict.get? k = some inv → hex inv.paymentHash = k

namespace HoldInvoices

@[ext] theorem ext {s t : HoldInvoices} (h : s.dict = t.dict) : s = t := by
  cases s; cases t; cases h; rfl

instance : DecidableEq HoldInvoices := fun s t =>
  decidable_of_iff (s.dict = t.dict) ⟨HoldInvoices.ext, fun h => h ▸ rfl⟩

def empty : HoldInvoices := ⟨∅, fun k inv h => by rw [Dict.get?_empty] at h; cases h⟩

instance : EmptyCollection HoldInvoices := ⟨empty⟩

def get? (t : HoldInvoices) (k : Hex) : Option HoldInvoice := t.dict.get? k

/-- `t[invoice.payment_hash.hex()] = invoice`. -/
def set (t : HoldInvoices) (invoice : HoldInvoice) : HoldInvoices where
  dict := t.dict.set (hex invoice.paymentHash) invoice
  keyed k inv h := by
    rw [Dict.get?_set] at h
    split at h
    · next hk => cases h; exact hk.symm
    · exact t.keyed k inv h

/-- `t.pop(k, None)`. -/
def pop (t : HoldInvoices) (k : Hex) : HoldInvoices where
  dict := t.dict.pop k
  keyed k' inv h := t.keyed k' inv (Dict.get?_of_pop h).2

/-- Change the invoice object stored under `k`. -/
def modify (t : HoldInvoices) (k : Hex) (f : HoldInvoice → HoldInvoice)
    (hf : ∀ inv, (f inv).paymentHash = inv.paymentHash) : HoldInvoices where
  dict := t.dict.modify k f
  keyed k' inv h := by
    rw [Dict.get?_modify] at h
    split at h
    · next hk =>
      obtain ⟨inv', hinv', rfl⟩ := Option.map_eq_some_iff.mp h
      rw [hf, t.keyed k' inv' hinv']
    · exact t.keyed k' inv h

/-- The table as the store would hold it if it were written now. -/
def stored (t : HoldInvoices) : HoldInvoices where
  dict := t.dict.mapVals HoldInvoice.stored
  keyed k inv h := by
    rw [Dict.get?_mapVals] at h
    obtain ⟨inv', hinv', rfl⟩ := Option.map_eq_some_iff.mp h
    exact t.keyed k inv' hinv'

variable (t : HoldInvoices) (k k' : Hex) (invoice : HoldInvoice)

@[simp] theorem get?_empty : (∅ : HoldInvoices).get? k = none := rfl

theorem get?_set :
    (t.set invoice).get? k = if k = hex invoice.paymentHash then some invoice else t.get? k :=
  t.dict.get?_set _ _ _

theorem get?_pop : (t.pop k).get? k' = if k' = k then none else t.get? k' :=
  t.dict.get?_pop k k'

theorem get?_modify {f : HoldInvoice → HoldInvoice}
    {hf : ∀ inv, (f inv).paymentHash = inv.paymentHash} :
    (t.modify k f hf).get? k' = if k' = k then (t.get? k').map f else t.get? k' :=
  t.dict.get?_modify k k' f

theorem get?_stored : t.stored.get? k = (t.get? k).map HoldInvoice.stored :=
  t.dict.get?_mapVals _ k

/-- An invoice is found under its own payment hash only. -/
theorem hex_paymentHash {t : HoldInvoices} {k : Hex} {inv : HoldInvoice} (h : t.get? k = some inv) :
    hex inv.paymentHash = k :=
  t.keyed k inv h

end HoldInvoices

/-! ## Outgoing invoices -/

/-- An invoice a client asks the plugin to pay, as `Invoice.from_bech32` decodes it. -/
structure Invoice where
  lightningInvoice : String
  rhash : Bytes
  amountMsat : Option Int
  time : Nat
  exp : Nat
  deriving DecidableEq

/-- `Invoice.get_amount_sat`. -/
def Invoice.amountSat (i : Invoice) : Option Int := i.amountMsat.map (· / 1000)

end SubswapProvider
