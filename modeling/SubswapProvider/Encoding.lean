import SubswapProvider.Invoices
import SubswapProvider.Library.HexText

/-!
# Hold invoices as JSON

`to_json` of HTLCs and hold invoices, and the constructors that read it back. What is written is read
back as it was but for the callbacks (`HoldInvoice.fromDict_toJson`). An associated invoice without
bytes is written as `null`, like none; no invoice of the plugin has one.
-/

namespace SubswapProvider

/-- A value that `json.loads` reads back as `json.dumps` has written it. -/
inductive Json
  | null
  | num (n : Int)
  | str (s : String)
  | list (l : List Json)
  | dict (d : List (String × Json))

namespace Json

/-- `data[k]`. -/
def item (data : Json) (k : String) : Except PyErr Json :=
  match data with
  | .dict d =>
    match d.lookup k with
    | some v => .ok v
    | none => .error .KeyError
  | _ => .error .TypeError

/-- `data.get(k, default)`. -/
def get (data : Json) (k : String) (default : Json) : Except PyErr Json :=
  match data with
  | .dict d => .ok ((d.lookup k).getD default)
  | _ => .error .AttributeError

def asStr : Json → Except PyErr String
  | .str s => .ok s
  | _ => .error .TypeError

def asInt : Json → Except PyErr Int
  | .num n => .ok n
  | _ => .error .TypeError

/-- A number that is a natural one here. -/
def asNat : Json → Except PyErr Nat
  | .num (.ofNat n) => .ok n
  | .num (.negSucc _) => .error .ValueError
  | _ => .error .TypeError

def asList : Json → Except PyErr (List Json)
  | .list l => .ok l
  | _ => .error .TypeError

/-- `hex_to_bytes`. -/
def hexToBytes : Json → Except PyErr (Option Bytes)
  | .null => .ok none
  | .str s =>
    match HexText.decode s with
    | some b => .ok (some b)
    | none => .error .ValueError
  | _ => .error .TypeError

@[simp] theorem asNat_num (n : Nat) : asNat (.num n) = .ok n := rfl

@[simp] theorem hexToBytes_encode (b : Bytes) :
    hexToBytes (.str (HexText.encode b)) = .ok (some b) := by
  unfold hexToBytes
  simp only [HexText.decode_encode]

end Json

/-! ## HTLCs -/

/-- `HtlcState.value`. -/
def HtlcState.value : HtlcState → Int
  | .settled => 1
  | .accepted => 2
  | .cancelled => 3

/-- `HtlcState(value)`. -/
def HtlcState.ofValue : Json → Except PyErr HtlcState
  | .num 1 => .ok .settled
  | .num 2 => .ok .accepted
  | .num 3 => .ok .cancelled
  | _ => .error .ValueError

@[simp] theorem HtlcState.ofValue_value (st : HtlcState) : ofValue (.num st.value) = .ok st := by
  cases st <;> rfl

namespace Htlc

/-- `Htlc.to_json`. -/
def toJson (h : Htlc) : Json := .dict [
  ("_type", .str "Htlc"),
  ("state", .num h.state.value),
  ("short_channel_id", .str h.shortChannelId),
  ("channel_id", .num h.channelId),
  ("amount_msat", .num h.amountMsat),
  ("created_at", .num h.createdAt)]

/-- `Htlc.from_json`. -/
def fromJson (data : Json) : Except PyErr Htlc := do
  (match data.get "_type" .null with
    | .ok (.str "Htlc") => pure ()
    | .ok _ => .error .ValueError
    | .error e => .error e)
  let state ← (data.item "state").bind HtlcState.ofValue
  let shortChannelId ← (data.item "short_channel_id").bind Json.asStr
  let channelId ← (data.item "channel_id").bind Json.asNat
  let amountMsat ← (data.item "amount_msat").bind Json.asNat
  let createdAt ← (data.item "created_at").bind Json.asNat
  pure { state, shortChannelId, channelId, amountMsat, createdAt, requestCallback := none }

@[simp] theorem fromJson_toJson (h : Htlc) : fromJson h.toJson = .ok h.stored := by
  simp [fromJson, toJson, Json.item, Json.get, List.lookup, Json.asStr, Htlc.stored, Except.bind,
    bind, pure, Except.pure]

end Htlc

/-! ## Sets of HTLCs -/

namespace HtlcSet

/-- `set(l)`. -/
def ofList (l : List Htlc) : HtlcSet := l.foldl (fun s h => s.add h) ∅

theorem elems_foldl_add {l : List Htlc} {s : HtlcSet} (h : ((s.elems ++ l).map Htlc.key).Nodup) :
    (l.foldl (fun s h => s.add h) s).elems = s.elems ++ l := by
  induction l generalizing s with
  | nil => exact (List.append_nil _).symm
  | cons a l ih =>
    have hnew : s.find? a.key = none := by
      apply find?_eq_none.mpr
      intro b hb heq
      rw [List.map_append, List.map_cons] at h
      exact (List.nodup_append.mp h).2.2 _ (List.mem_map_of_mem hb) _ List.mem_cons_self heq
    have hadd : (s.add a).elems = s.elems ++ [a] := elems_add hnew
    have happend : (s.add a).elems ++ l = s.elems ++ a :: l := by
      rw [hadd, List.append_assoc]
      rfl
    have hstep := ih (s := s.add a) (happend ▸ h)
    rw [happend] at hstep
    exact hstep

/-- A list without equal HTLCs is the set of its elements. -/
theorem elems_ofList {l : List Htlc} (h : (l.map Htlc.key).Nodup) : (ofList l).elems = l :=
  elems_foldl_add (s := ∅) h

end HtlcSet

/-! ## Hold invoices -/

/-- `InvoiceState.value`. -/
def InvoiceState.value : InvoiceState → Int
  | .settled => 1
  | .funded => 2
  | .unfunded => 3
  | .failed => 4

/-- `InvoiceState(value)`. -/
def InvoiceState.ofValue : Json → Except PyErr InvoiceState
  | .num 1 => .ok .settled
  | .num 2 => .ok .funded
  | .num 3 => .ok .unfunded
  | .num 4 => .ok .failed
  | _ => .error .ValueError

@[simp] theorem InvoiceState.ofValue_value (st : InvoiceState) :
    ofValue (.num st.value) = .ok st := by
  cases st <;> rfl

namespace HoldInvoice

/-- `b.hex() if b else None`. -/
def hexOrNull : Option Bytes → Json
  | some (b :: bs) => .str (HexText.encode (b :: bs))
  | _ => .null

/-- `HoldInvoice.to_json`. -/
def toJson (inv : HoldInvoice) : Json := .dict [
  ("payment_hash", .str (HexText.encode inv.paymentHash)),
  ("bolt11", .str inv.bolt11),
  ("amount_msat", .num inv.amountMsat),
  ("expiry", .num inv.expiry),
  ("incoming_htlcs", .list (inv.incomingHtlcs.elems.map Htlc.toJson)),
  ("funding_status", .num inv.fundingStatus.value),
  ("created_at", .num inv.createdAt),
  ("associated_invoice", hexOrNull inv.associatedInvoice)]

/-- `HoldInvoice(data)`, for a `dict`. -/
def fromDict (data : Json) : Except PyErr HoldInvoice := do
  let paymentHash ← (data.item "payment_hash").bind Json.hexToBytes
  let bolt11 ← (data.item "bolt11").bind Json.asStr
  let amountMsat ← (data.item "amount_msat").bind Json.asInt
  let expiry ← (data.item "expiry").bind Json.asNat
  let htlcs ← (data.get "incoming_htlcs" (.list [])).bind Json.asList
  let htlcs ← htlcs.mapM Htlc.fromJson
  let fundingStatus ← (data.item "funding_status").bind InvoiceState.ofValue
  let createdAt ← (data.item "created_at").bind Json.asNat
  let associatedInvoice ← (data.item "associated_invoice").bind Json.hexToBytes
  match paymentHash with
  -- no invoice without a payment hash is stored
  | none => .error .TypeError
  | some paymentHash =>
    pure {
      paymentHash, bolt11, amountMsat, expiry, fundingStatus, createdAt, associatedInvoice
      incomingHtlcs := HtlcSet.ofList htlcs }

theorem mapM_fromJson (l : List Htlc) :
    l.mapM (Htlc.fromJson ∘ Htlc.toJson) = .ok (l.map Htlc.stored) := by
  induction l with
  | nil => rfl
  | cons h l ih =>
    rw [List.mapM_cons, ih]
    show (Htlc.fromJson h.toJson >>= fun _ => _) = _
    rw [Htlc.fromJson_toJson]
    rfl

theorem hexToBytes_hexOrNull {o : Option Bytes} (h : o ≠ some []) :
    Json.hexToBytes (hexOrNull o) = .ok o := by
  cases o with
  | none => rfl
  | some b =>
    cases b with
    | nil => exact absurd rfl h
    | cons b bs => exact Json.hexToBytes_encode (b :: bs)

/-- **A hold invoice is read back as it was written**, without the callbacks. -/
theorem fromDict_toJson {inv : HoldInvoice} (h : inv.associatedInvoice ≠ some []) :
    fromDict inv.toJson = .ok inv.stored := by
  have hset : HtlcSet.ofList (inv.incomingHtlcs.elems.map Htlc.stored)
      = inv.incomingHtlcs.map Htlc.stored Htlc.key_stored :=
    HtlcSet.ext (HtlcSet.elems_ofList (inv.incomingHtlcs.map Htlc.stored Htlc.key_stored).nodup)
  unfold fromDict toJson
  simp [Json.item, Json.get, List.lookup, Except.bind, bind, pure, Except.pure, Json.asStr, Json.asInt,
    Json.asList, mapM_fromJson, hset, hexToBytes_hexOrNull h, HoldInvoice.stored]

end HoldInvoice

end SubswapProvider
