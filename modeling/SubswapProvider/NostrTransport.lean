import SubswapProvider.Responses
import SubswapProvider.System
import SubswapProvider.Library.HexText

/-!
# The messages of clients

`NostrTransport.check_direct_messages`, the loop that takes direct messages one by one, and
`handle_request`. A message that does not decode is skipped. Everything behind the decoding stands
outside the `try`: an exception ends the loop, the task group logs it (`main_loop`), and nothing starts
the loop again as long as offers are published (`run_nostr_server` only looks for a timeout).

The handlers get the dictionaries that came in, with their fields still to be read. What they do with an
`invoiceAmount` that is a float is left open (`Clients`), since the amounts of `Swaps.lean` are
integers.
-/

namespace SubswapProvider

open Deployment Effect

/-! ## JSON values -/

/-- A number that is written with a fraction or an exponent, or one of `NaN`, `Infinity`, `-Infinity`. -/
inductive PyFloat
  | finite (q : ℚ)
  | infinite (negative : Bool)
  | nan

/-- What `json.loads` returns. -/
inductive JsonValue
  | null
  | bool (b : Bool)
  | int (n : Int)
  | float (x : PyFloat)
  | str (s : String)
  | list (l : List JsonValue)
  | dict (d : List (String × JsonValue))

/-- A key of a dictionary. Python takes `1`, `1.0` and `True` for one key; `NaN` is always the same
object here. -/
inductive PyHashable
  | none
  | number (q : ℚ)
  | infinite (negative : Bool)
  | nan
  | str (s : String)
  deriving DecidableEq

/-- The key a value is; lists and dictionaries are none. -/
def JsonValue.hashable? : JsonValue → Option PyHashable
  | .null => some .none
  | .bool b => some (.number (if b then 1 else 0))
  | .int n => some (.number n)
  | .float (.finite q) => some (.number q)
  | .float (.infinite negative) => some (.infinite negative)
  | .float .nan => some .nan
  | .str s => some (.str s)
  | .list _ => Option.none
  | .dict _ => Option.none

abbrev JsonDict := List (String × JsonValue)

/-- `d[k] = v`. -/
def JsonDict.setItem (d : JsonDict) (k : String) (v : JsonValue) : JsonDict :=
  (k, v) :: d.filter fun p => p.1 ≠ k

/-- `d` after `d.pop(k)`. -/
def JsonDict.popItem (d : JsonDict) (k : String) : JsonDict := d.filter fun p => p.1 ≠ k

/-! ## Requests -/

/-- What the handlers need beyond the model. -/
structure Clients where
  /-- `Invoice.from_bech32`; `none` if it raises. -/
  fromBech32 : String → Option Invoice
  /-- `str(value)`. -/
  str : JsonValue → String
  str_str : ∀ s, str (.str s) = s
  /-- `server_create_swap` behind its checks of the hash and the key, for a float. -/
  createswapFloat : Env → PyFloat → Bytes → Bytes → PyM Response
  /-- `server_create_normal_swap` behind its check of the key, for a float. -/
  createnormalswapFloat : Env → PyFloat → Bytes → PyM Response

/-- `request[k]`. -/
def getItem (request : JsonDict) (k : String) : PyM JsonValue := orRaise .KeyError (request.lookup k)

/-- `bytes.fromhex(value)`. -/
def fromhex : JsonValue → PyM Bytes
  | .str s => orRaise .ValueError (HexText.decode s)
  | _ => throw .TypeError

/-- The value is this text. -/
def JsonValue.isStr (value : JsonValue) (text : String) : Bool :=
  match value with
  | .str s => s = text
  | _ => false

variable [Deployment]

/-- `server_create_swap`, from the dictionary. -/
def Clients.serverCreateSwap (c : Clients) (env : Env) (request : JsonDict) : PyM Response := do
  let req_type ← getItem request "type"
  let pairId ← getItem request "pairId"
  pyAssert (pairId.isStr "BTC/BTC")
  if req_type.isStr "reversesubmarine" then do
    let lightning_amount_sat ← getItem request "invoiceAmount"
    let payment_hash ← getItem request "preimageHash"
    let payment_hash ← fromhex payment_hash
    let their_pubkey ← getItem request "claimPublicKey"
    let their_pubkey ← fromhex their_pubkey
    pyAssert (payment_hash.length = 32)
    pyAssert (their_pubkey.length = 33)
    match lightning_amount_sat with
    | .int n =>
      serverCreateSwapResponse env "reversesubmarine" "BTC/BTC" n payment_hash their_pubkey
    | .bool b =>
      serverCreateSwapResponse env "reversesubmarine" "BTC/BTC" (if b then 1 else 0) payment_hash
        their_pubkey
    | .float x => c.createswapFloat env x payment_hash their_pubkey
    | _ => throw .TypeError
  else if req_type.isStr "submarine" then
    pure (.error "Deprecated API. Please upgrade your version of Electrum")
  else pure (.error ("unsupported request type: " ++ c.str req_type))

/-- `server_create_normal_swap`, from the dictionary. -/
def Clients.serverCreateNormalSwap (c : Clients) (env : Env) (request : JsonDict) :
    PyM Response := do
  let lightning_amount_sat ← getItem request "invoiceAmount"
  let their_pubkey ← getItem request "refundPublicKey"
  let their_pubkey ← fromhex their_pubkey
  pyAssert (their_pubkey.length = 33)
  match lightning_amount_sat with
  | .int n => serverCreateNormalSwapResponse env n their_pubkey
  | .bool b => serverCreateNormalSwapResponse env (if b then 1 else 0) their_pubkey
  | .float x => c.createnormalswapFloat env x their_pubkey
  | _ => throw .TypeError

/-- `server_add_swap_invoice`, from the dictionary. -/
def Clients.serverAddSwapInvoice (c : Clients) (env : Env) (request : JsonDict) :
    PyM Response := do
  let invoice ← getItem request "invoice"
  (match invoice with
    | .str s => SubswapProvider.serverAddSwapInvoice env (c.fromBech32 s)
    | _ => SubswapProvider.serverAddSwapInvoice env none)
  pure .addswapinvoice

/-- The handler of a method. -/
def Clients.serve (c : Clients) (env : Env) (method : JsonValue) (request : JsonDict) :
    PyM Response :=
  if method.isStr "addswapinvoice" then c.serverAddSwapInvoice env request
  else if method.isStr "createswap" then c.serverCreateSwap env request
  else if method.isStr "createnormalswap" then c.serverCreateNormalSwap env request
  else pure (.error ("unknown swap method: " ++ c.str method))

/-! ## The transport -/

/-- A nostr event with a direct message: its content if it can be decrypted and decoded. -/
structure NostrEvent where
  id : String
  pubkey : String
  content : Option JsonValue

/-- A direct message to a client: the response, with `reply_to`. -/
structure DirectMessage where
  pubkey : String
  replyTo : String
  response : Response
  deriving DecidableEq

/-- A transport at work, over the process it serves. -/
structure Transport where
  world : World
  /-- The keys of `dm_replies`; all of these futures have their result. -/
  dmReplies : List PyHashable
  /-- The messages sent, the oldest first. -/
  sent : List DirectMessage

inductive TransportErr
  /-- An exception of a handler. -/
  | python (e : PyErr)
  | TypeError
  | InvalidStateError
  /-- `_add_event` raises. -/
  | relay
  deriving DecidableEq

abbrev TransportM := EStateM TransportErr Transport

/-- What a handler does to the process. -/
def serving {α : Type} (p : PyM α) : TransportM α := fun t =>
  match p t.world with
  | .ok a w => .ok a { t with world := w }
  | .error e w => .error (.python e) { t with world := w }

namespace NostrTransport

/-- `send_direct_message`; `sends` is whether the relays take it. -/
def sendDirectMessage (sends : Bool) (message : DirectMessage) : TransportM Unit :=
  if sends then modify fun t => { t with sent := t.sent ++ [message] } else throw .relay

/-- `handle_request`. -/
def handleRequest (c : Clients) (env : Env) (sends : Bool) (event : NostrEvent)
    (method : JsonValue) (request : JsonDict) : TransportM Unit := do
  let r ← serving (c.serve env method request)
  sendDirectMessage sends { pubkey := event.pubkey, replyTo := event.id, response := r }

/-- One turn of the loop of `check_direct_messages`. -/
def checkDirectMessage (c : Clients) (env : Env) (sends : Bool) (event : NostrEvent) :
    TransportM Unit :=
  match event.content with
  | none => pure ()
  | some (.dict content) =>
    let content := JsonDict.setItem content "event_id" (.str event.id)
    let content := content.setItem "event_pubkey" (.str event.pubkey)
    match content.lookup "reply_to" with
    | some reply_to =>
      match reply_to.hashable? with
      | none => throw .TypeError
      | some k => do
        let t ← get
        -- the future of a key that is there has its result
        if k ∈ t.dmReplies then throw .InvalidStateError
        else modify fun t => { t with dmReplies := k :: t.dmReplies }
    | none =>
      match content.lookup "method" with
      | some method =>
        handleRequest c env sends event method
          (((content.popItem "method").popItem "event_id").popItem "event_pubkey")
      | none => pure ()
  -- `content['event_id'] = event.id` takes a dictionary
  | some _ => throw .TypeError

end NostrTransport

/-- What happens one after another: a message arrives, or the plugin takes a step of its own. -/
inductive Arrival
  | message (env : Env) (sends : Bool) (event : NostrEvent)
  | step (a : Action)

namespace NostrTransport

/-- What the loop does with an arrival. -/
def arrive (c : Clients) : Arrival → TransportM Unit
  | .message env sends event => checkDirectMessage c env sends event
  | .step a => modify fun t => { t with world := step a t.world }

/-- `check_direct_messages`, for some arrivals. It returns when it waits for the next. -/
def checkDirectMessages (c : Clients) (arrivals : List Arrival) : TransportM Unit :=
  arrivals.forM (arrive c)

/-- `main_loop`, once it is connected: the task group's exception is logged. -/
def mainLoop (c : Clients) (arrivals : List Arrival) : TransportM Unit :=
  tryCatch (checkDirectMessages c arrivals) fun _ => pure ()

end NostrTransport

end SubswapProvider
