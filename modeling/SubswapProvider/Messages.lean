import SubswapProvider.NostrTransport

/-!
# What a message does to the server

The loop over the messages has no handler of its own, so it lasts as long as no message raises. A message
is `Harmless` in the state it meets if it does not decode, or is a dictionary that brings a reply under a
new key, a request that is answered, or neither. `served_iff` says that the server serves every message of
a sequence, each request with one reply that depends on the process alone, exactly if all of them are
harmless; `main_loop_deaf` says what becomes of the rest otherwise.
-/

namespace SubswapProvider

open Deployment Effect

/-! ## Dictionaries -/

section

variable {d : JsonDict} {k k' : String} {v : JsonValue}

theorem JsonDict.lookup_popItem_ne (h : k' ≠ k) : (d.popItem k).lookup k' = d.lookup k' := by
  unfold JsonDict.popItem
  induction d with
  | nil => rfl
  | cons p d ih =>
    obtain ⟨k₀, v₀⟩ := p
    by_cases hk : k₀ = k
    · rw [List.filter_cons_of_neg (by simpa using hk), ih]
      have hne : (k' == k₀) = false := by
        rw [hk]
        exact beq_false_of_ne h
      rw [List.lookup_cons, hne]
    · rw [List.filter_cons_of_pos (by simpa using hk), List.lookup_cons, List.lookup_cons, ih]

theorem JsonDict.lookup_setItem_ne (h : k' ≠ k) : (d.setItem k v).lookup k' = d.lookup k' := by
  have hne : (k' == k) = false := beq_false_of_ne h
  show ((k, v) :: d.popItem k).lookup k' = _
  rw [List.lookup_cons, hne]
  exact JsonDict.lookup_popItem_ne h

/-- Removing two keys, in either order. -/
theorem JsonDict.popItem_comm : (d.popItem k).popItem k' = (d.popItem k').popItem k := by
  unfold JsonDict.popItem
  rw [List.filter_filter, List.filter_filter]
  exact List.filter_congr fun p _ => Bool.and_comm _ _

theorem JsonDict.popItem_setItem : (d.setItem k v).popItem k = d.popItem k := by
  unfold JsonDict.setItem JsonDict.popItem
  rw [List.filter_cons_of_neg (by simp), List.filter_filter]
  exact List.filter_congr fun p _ => Bool.and_self _

theorem JsonDict.popItem_setItem_ne (h : k' ≠ k) :
    (d.setItem k v).popItem k' = (d.popItem k').setItem k v := by
  have hpop : (d.popItem k).popItem k' = (d.popItem k').popItem k := JsonDict.popItem_comm
  show List.filter _ ((k, v) :: d.popItem k) = (k, v) :: (d.popItem k').popItem k
  rw [List.filter_cons_of_pos (by simpa using fun heq : k = k' => h heq.symm), ← hpop]
  rfl

end

/-! ## Requests and harmless messages -/

/-- The method and the request a message brings, if it is one. -/
def NostrEvent.request? (event : NostrEvent) : Option (JsonValue × JsonDict) :=
  match event.content with
  | some (.dict content) =>
    match content.lookup "reply_to" with
    | some _ => none
    | none => (content.lookup "method").map fun method =>
        (method, ((JsonDict.popItem content "method").popItem "event_id").popItem "event_pubkey")
  | _ => none

section

variable [Deployment]

/-- The loop survives the arrival in the state `t`. -/
def Harmless (c : Clients) (t : Transport) : Arrival → Prop
  | .step _ => True
  | .message env sends event =>
    match event.content with
    | none => True
    | some (.dict content) =>
      match content.lookup "reply_to" with
      | some reply_to => ∃ k ∈ reply_to.hashable?, k ∉ t.dmReplies
      | none => ∀ request ∈ event.request?,
          returns (c.serve env request.1 request.2) t.world = true ∧ sends = true
    | some _ => False

/-! ## The requests of `Swaps.lean`, as messages -/

/-- The method of a request, and the dictionary a client sends with it. -/
inductive ClientRequest.SentAs (c : Clients) : ClientRequest → JsonValue → JsonDict → Prop
  | createswap (type pairId : String) (n : Int) (preimageHash claimPublicKey : Bytes) :
    SentAs c (.createswap type pairId n preimageHash claimPublicKey) (.str "createswap") [
      ("type", .str type), ("pairId", .str pairId), ("invoiceAmount", .int n),
      ("preimageHash", .str (HexText.encode preimageHash)),
      ("claimPublicKey", .str (HexText.encode claimPublicKey))]
  | createnormalswap (n : Int) (refundPublicKey : Bytes) :
    SentAs c (.createnormalswap n refundPublicKey) (.str "createnormalswap") [
      ("invoiceAmount", .int n), ("refundPublicKey", .str (HexText.encode refundPublicKey))]
  | addswapinvoice (invoice : String) :
    SentAs c (.addswapinvoice (c.fromBech32 invoice)) (.str "addswapinvoice")
      [("invoice", .str invoice)]

omit [Deployment] in
theorem fromhex_encode (b : Bytes) : fromhex (.str (HexText.encode b)) = pure b := by
  unfold fromhex
  dsimp only
  rw [HexText.decode_encode]
  rfl

omit [Deployment] in
theorem getItem_head (k : String) (v : JsonValue) (d : JsonDict) :
    getItem ((k, v) :: d) k = pure v := by
  unfold getItem
  rw [List.lookup_cons_self]
  rfl

omit [Deployment] in
theorem getItem_tail {k k' : String} (v : JsonValue) (d : JsonDict) (h : k' ≠ k) :
    getItem ((k, v) :: d) k' = getItem d k' := by
  unfold getItem
  rw [List.lookup_cons, beq_false_of_ne h]

omit [Deployment] in
theorem pyAssert_false {α : Type} (f : Unit → PyM α) :
    (pyAssert false >>= f) = throw .AssertionError := rfl

/-- A request comes to its handler as it was sent. -/
theorem serve_sentAs {c : Clients} {env : Env} {r : ClientRequest} {method : JsonValue}
    {request : JsonDict} (h : r.SentAs c method request) :
    c.serve env method request = handleRequestResponse env r := by
  cases h with
  | createswap type pairId n preimageHash claimPublicKey =>
    show c.serverCreateSwap env _ = serverCreateSwapResponse env _ _ _ _ _
    unfold Clients.serverCreateSwap serverCreateSwapResponse
    rw [getItem_head, pure_bind, getItem_tail _ _ (by decide), getItem_head, pure_bind]
    by_cases hpair : pairId = "BTC/BTC"
    · have hyes : JsonValue.isStr (.str pairId) "BTC/BTC" = true := decide_eq_true hpair
      rw [hyes, decide_eq_true hpair, pyAssert_true, pure_bind, pure_bind]
      by_cases hreverse : type = "reversesubmarine"
      · subst hreverse
        rw [if_pos rfl, if_pos (show JsonValue.isStr (.str "reversesubmarine") "reversesubmarine" = true
          from rfl)]
        rw [getItem_tail _ _ (by decide), getItem_tail _ _ (by decide), getItem_head, pure_bind]
        rw [getItem_tail _ _ (by decide), getItem_tail _ _ (by decide), getItem_tail _ _ (by decide),
          getItem_head, pure_bind, fromhex_encode, pure_bind]
        rw [getItem_tail _ _ (by decide), getItem_tail _ _ (by decide), getItem_tail _ _ (by decide),
          getItem_tail _ _ (by decide), getItem_head, pure_bind, fromhex_encode, pure_bind]
        -- the handler behind the dictionary makes the same checks once more
        by_cases hhash : preimageHash.length = 32
        · rw [decide_eq_true hhash, pyAssert_true, pure_bind]
          by_cases hkey : claimPublicKey.length = 33
          · rw [decide_eq_true hkey, pyAssert_true, pure_bind]
            dsimp only
            rw [decide_eq_true (rfl : "BTC/BTC" = "BTC/BTC"), pyAssert_true, pure_bind, if_pos rfl,
              pure_bind]
          · rw [decide_eq_false hkey, pyAssert_false, pyAssert_false, pure_bind]
        · rw [decide_eq_false hhash, pyAssert_false, pyAssert_false]
      · have hnot : ¬ JsonValue.isStr (.str type) "reversesubmarine" = true := by
          simpa [JsonValue.isStr] using hreverse
        rw [if_neg hnot, if_neg hreverse, c.str_str]
        have hsubmarine : JsonValue.isStr (.str type) "submarine" = decide (type = "submarine") := rfl
        simp only [hsubmarine, decide_eq_true_iff]
    · have hnot : JsonValue.isStr (.str pairId) "BTC/BTC" = false := decide_eq_false hpair
      rw [hnot, decide_eq_false hpair, pyAssert_false, pyAssert_false]
  | createnormalswap n refundPublicKey =>
    show c.serverCreateNormalSwap env _ = serverCreateNormalSwapResponse env _ _
    unfold Clients.serverCreateNormalSwap
    rw [getItem_head, pure_bind, getItem_tail _ _ (by decide), getItem_head, pure_bind, fromhex_encode,
      pure_bind]
    by_cases hkey : refundPublicKey.length = 33
    · unfold serverCreateNormalSwapResponse
      rw [decide_eq_true hkey, pyAssert_true, pure_bind]
    · unfold serverCreateNormalSwapResponse
      rw [decide_eq_false hkey, pyAssert_false, pyAssert_false]
  | addswapinvoice invoice => rfl

namespace Transport

/-- The transport after some arrivals. -/
def after (c : Clients) (arrivals : List Arrival) (t : Transport) : Transport :=
  final (NostrTransport.checkDirectMessages c arrivals) t

/-- A new transport for the same process. -/
def fresh (t : Transport) : Transport := ⟨t.world, [], []⟩

end Transport

/-- The loop goes on after the arrivals, and every request among them got one reply, which a new transport
would have sent, too. -/
structure Served (c : Clients) (t : Transport) (arrivals : List Arrival) : Prop where
  goesOn : returns (NostrTransport.checkDirectMessages c arrivals) t = true
  answered : ∀ before env sends event later,
    arrivals = before ++ .message env sends event :: later → event.request?.isSome = true →
    ∃ message : DirectMessage, message.pubkey = event.pubkey ∧ message.replyTo = event.id ∧
      (t.after c (before ++ [.message env sends event])).sent = (t.after c before).sent ++ [message] ∧
      ((t.after c before).fresh.after c [.message env sends event]).sent = [message] ∧
      (t.after c (before ++ [.message env sends event])).world =
        ((t.after c before).fresh.after c [.message env sends event]).world

/-! ## One message -/

namespace NostrTransport

variable {c : Clients} {env : Env} {sends : Bool} {event : NostrEvent} {t : Transport}

/-- A request goes to its handler. -/
theorem checkDirectMessage_request {method : JsonValue} {request : JsonDict}
    (h : event.request? = some (method, request)) :
    checkDirectMessage c env sends event = handleRequest c env sends event method request := by
  unfold NostrEvent.request? at h
  split at h
  · next content hcontent =>
    split at h
    · cases h
    · next hreply =>
      obtain ⟨method', hmethod, heq⟩ := Option.map_eq_some_iff.mp h
      obtain ⟨rfl, rfl⟩ := Prod.mk.inj heq
      unfold checkDirectMessage
      rw [hcontent]
      dsimp only
      rw [JsonDict.lookup_setItem_ne (by decide), JsonDict.lookup_setItem_ne (by decide), hreply,
        JsonDict.lookup_setItem_ne (by decide), JsonDict.lookup_setItem_ne (by decide), hmethod]
      dsimp only
      rw [JsonDict.popItem_setItem_ne (show "method" ≠ "event_pubkey" by decide),
        JsonDict.popItem_setItem_ne (show "method" ≠ "event_id" by decide),
        JsonDict.popItem_setItem_ne (show "event_id" ≠ "event_pubkey" by decide),
        JsonDict.popItem_setItem, JsonDict.popItem_setItem]
  · cases h

/-- **Spec of `handle_request`.** -/
theorem handleRequest_run (method : JsonValue) (request : JsonDict) :
    handleRequest c env sends event method request t =
      match c.serve env method request t.world with
      | .ok r w =>
        if sends then .ok ⟨⟩ { t with world := w, sent := t.sent ++ [⟨event.pubkey, event.id, r⟩] }
        else .error .relay { t with world := w }
      | .error e w => .error (.python e) { t with world := w } := by
  unfold handleRequest
  cases hserve : c.serve env method request t.world with
  | ok r w =>
    have hserving : serving (c.serve env method request) t = .ok r { t with world := w } := by
      unfold serving
      rw [hserve]
    rw [bind_ok hserving]
    unfold sendDirectMessage
    cases sends with
    | true => rfl
    | false => rfl
  | error e w =>
    have hserving : serving (c.serve env method request) t = .error (.python e) { t with world := w } := by
      unfold serving
      rw [hserve]
    rw [bind_error hserving]

theorem handleRequest_returns_iff (method : JsonValue) (request : JsonDict) :
    returns (handleRequest c env sends event method request) t = true ↔
      returns (c.serve env method request) t.world = true ∧ sends = true := by
  unfold returns
  rw [handleRequest_run]
  cases c.serve env method request t.world with
  | ok r w =>
    cases sends with
    | true => simp
    | false => simp
  | error e w => simp

/-- **A message ends the loop** exactly if it is not harmless. -/
theorem arrive_returns_iff (c : Clients) (t : Transport) (arrival : Arrival) :
    returns (arrive c arrival) t = true ↔ Harmless c t arrival := by
  cases arrival with
  | step a => exact ⟨fun _ => trivial, fun _ => rfl⟩
  | message env sends event =>
    show returns (checkDirectMessage c env sends event) t = true ↔ _
    unfold Harmless
    dsimp only
    cases hcontent : event.content with
    | none =>
      unfold checkDirectMessage
      rw [hcontent]
      exact iff_of_true rfl trivial
    | some value =>
      cases value with
      | dict content =>
        cases hreply : content.lookup "reply_to" with
        | some reply_to =>
          unfold checkDirectMessage
          rw [hcontent]
          dsimp only
          rw [JsonDict.lookup_setItem_ne (by decide), JsonDict.lookup_setItem_ne (by decide), hreply]
          dsimp only
          cases hkey : reply_to.hashable? with
          | none => exact iff_of_false Bool.false_ne_true fun ⟨k, hk, _⟩ => nomatch hk
          | some k =>
            dsimp only
            have hexists : (∃ k' ∈ some k, k' ∉ t.dmReplies) ↔ k ∉ t.dmReplies := by simp
            rw [hexists]
            by_cases hold : k ∈ t.dmReplies
            · refine iff_of_false ?_ fun hnew => hnew hold
              unfold returns
              rw [get_bind, if_pos hold]
              exact Bool.false_ne_true
            · refine iff_of_true ?_ hold
              unfold returns
              rw [get_bind, if_neg hold]
              rfl
        | none =>
          cases hrequest : event.request? with
          | some request =>
            rw [checkDirectMessage_request hrequest, handleRequest_returns_iff]
            simp [hreply]
          | none =>
            have hmethod : content.lookup "method" = none := by
              unfold NostrEvent.request? at hrequest
              rw [hcontent] at hrequest
              dsimp only at hrequest
              rw [hreply] at hrequest
              exact Option.map_eq_none_iff.mp hrequest
            unfold checkDirectMessage
            rw [hcontent]
            dsimp only
            rw [JsonDict.lookup_setItem_ne (by decide), JsonDict.lookup_setItem_ne (by decide), hreply,
              JsonDict.lookup_setItem_ne (by decide), JsonDict.lookup_setItem_ne (by decide), hmethod]
            exact iff_of_true rfl nofun
      | _ =>
        unfold checkDirectMessage
        rw [hcontent]
        exact iff_of_false Bool.false_ne_true id

end NostrTransport

/-! ## All of them -/

section

open NostrTransport

variable {c : Clients} {t : Transport} {before : List Arrival}

/-- Every arrival is harmless where it comes. -/
def AllHarmless (c : Clients) (t : Transport) (arrivals : List Arrival) : Prop :=
  Allows (fun arrival t => final (arrive c arrival) t) (Harmless c) t arrivals

theorem checkDirectMessages_returns_iff (c : Clients) (t : Transport) (arrivals : List Arrival) :
    returns (checkDirectMessages c arrivals) t = true ↔ AllHarmless c t arrivals :=
  forM_returns_iff.trans (Allows.congr (arrive_returns_iff c))

theorem AllHarmless.after_append (h : AllHarmless c t before) {arrival : Arrival}
    (ha : Harmless c (t.after c before) arrival) :
    AllHarmless c t (before ++ [arrival]) ∧
      t.after c (before ++ [arrival]) = final (arrive c arrival) (t.after c before) := by
  have hbefore : t.after c before = before.foldl (fun t a => final (arrive c a) t) t :=
    final_forM ((checkDirectMessages_returns_iff c t before).mpr h)
  have hall : AllHarmless c t (before ++ [arrival]) :=
    Allows.append_iff.mpr ⟨h, hbefore ▸ ha, trivial⟩
  refine ⟨hall, ?_⟩
  have hafter : t.after c (before ++ [arrival]) =
      (before ++ [arrival]).foldl (fun t a => final (arrive c a) t) t :=
    final_forM ((checkDirectMessages_returns_iff c t _).mpr hall)
  rw [hafter, hbefore, List.foldl_append]
  rfl

theorem AllHarmless.split {arrival : Arrival} {later : List Arrival}
    (h : AllHarmless c t (before ++ arrival :: later)) :
    AllHarmless c t before ∧ Harmless c (t.after c before) arrival := by
  obtain ⟨hbefore, harrival, -⟩ := Allows.append_iff.mp h
  refine ⟨hbefore, ?_⟩
  have hafter : t.after c before = before.foldl (fun t a => final (arrive c a) t) t :=
    final_forM ((checkDirectMessages_returns_iff c t before).mpr hbefore)
  exact hafter ▸ harrival

/-- A request that is harmless gets its reply. -/
theorem Harmless.reply {env : Env} {sends : Bool} {event : NostrEvent} {method : JsonValue}
    {request : JsonDict} (h : Harmless c t (.message env sends event))
    (hrequest : event.request? = some (method, request)) :
    ∃ r w, sends = true ∧ c.serve env method request t.world = .ok r w ∧
      final (arrive c (.message env sends event)) t =
        { t with world := w, sent := t.sent ++ [⟨event.pubkey, event.id, r⟩] } := by
  have hreturns : returns (NostrTransport.handleRequest c env sends event method request) t = true := by
    rw [← checkDirectMessage_request hrequest]
    exact (arrive_returns_iff c t _).mpr h
  obtain ⟨hserve, hsends⟩ := handleRequest_returns_iff method request |>.mp hreturns
  cases hr : c.serve env method request t.world with
  | error e w =>
    unfold returns at hserve
    rw [hr] at hserve
    cases hserve
  | ok r w =>
    refine ⟨r, w, hsends, rfl, ?_⟩
    show final (checkDirectMessage c env sends event) t = _
    rw [checkDirectMessage_request hrequest]
    unfold final
    rw [handleRequest_run, hr, hsends]
    rfl

/-- **The server serves every message** exactly if every message is harmless. -/
theorem served_iff (c : Clients) (t : Transport) (arrivals : List Arrival) :
    Served c t arrivals ↔ AllHarmless c t arrivals := by
  constructor
  · intro h
    exact (checkDirectMessages_returns_iff c t arrivals).mp h.goesOn
  · intro h
    refine ⟨(checkDirectMessages_returns_iff c t arrivals).mpr h, ?_⟩
    intro before env sends event later heq hisSome
    obtain ⟨⟨method, request⟩, hrequest⟩ := Option.isSome_iff_exists.mp hisSome
    rw [heq] at h
    obtain ⟨hbefore, harmless⟩ := h.split
    obtain ⟨r, w, hsends, hserve, hfinal⟩ := harmless.reply hrequest
    obtain ⟨-, hafter⟩ := hbefore.after_append harmless
    -- a new transport calls the same handler
    have hfresh : Harmless c (t.after c before).fresh (.message env sends event) := by
      refine (arrive_returns_iff c _ _).mp ?_
      show returns (checkDirectMessage c env sends event) _ = true
      rw [checkDirectMessage_request hrequest, handleRequest_returns_iff]
      refine ⟨?_, hsends⟩
      have hworld : c.serve env method request (t.after c before).fresh.world = .ok r w := hserve
      unfold returns
      rw [hworld]
    obtain ⟨r', w', -, hserve', hfinal'⟩ := hfresh.reply hrequest
    have hsame : r' = r ∧ w' = w := by
      have hok : EStateM.Result.ok r' w' = EStateM.Result.ok r w := hserve'.symm.trans hserve
      cases hok
      exact ⟨rfl, rfl⟩
    obtain ⟨rfl, rfl⟩ := hsame
    have hnil : AllHarmless c (t.after c before).fresh [] := trivial
    obtain ⟨-, hafter'⟩ := hnil.after_append hfresh
    refine ⟨⟨event.pubkey, event.id, r'⟩, rfl, rfl, ?_, ?_, ?_⟩
    · rw [hafter, hfinal]
    · exact congrArg Transport.sent (hafter'.trans hfinal')
    · rw [hafter, hfinal]
      exact (congrArg Transport.world (hafter'.trans hfinal')).symm

/-- Behind a message that is not harmless no message is looked at any more, and `main_loop` returns as if
nothing was wrong. -/
theorem main_loop_deaf (h : AllHarmless c t before) {arrival : Arrival}
    (ha : ¬ Harmless c (t.after c before) arrival) (later : List Arrival) :
    final (NostrTransport.mainLoop c (before ++ arrival :: later)) t =
      final (arrive c arrival) (t.after c before) := by
  have hraises : returns (arrive c arrival) (final (before.forM (arrive c)) t) = false := by
    refine Bool.eq_false_iff.mpr fun hreturns => ha ?_
    exact (arrive_returns_iff c _ arrival).mp hreturns
  have hstops := final_forM_stops ((checkDirectMessages_returns_iff c t before).mpr h) hraises later
  have hmain : final (NostrTransport.mainLoop c (before ++ arrival :: later)) t =
      final (checkDirectMessages c (before ++ arrival :: later)) t := by
    unfold NostrTransport.mainLoop final
    cases hr : checkDirectMessages c (before ++ arrival :: later) t with
    | ok x s => rw [tryCatch_ok hr]
    | error e s =>
      rw [tryCatch_error hr]
      rfl
  exact hmain.trans hstops

end

end

section Sample

open Sample

attribute [local instance] Sample.deployment

/-- Clients that send neither invoices nor fractions. -/
def plainClients : Clients where
  fromBech32 _ := none
  str
    | .str s => s
    | _ => ""
  str_str _ := rfl
  createswapFloat _ _ _ _ := throw .TypeError
  createnormalswapFloat _ _ _ := throw .TypeError

/-- The transport of a server that is up. -/
def listening : Transport := ⟨runOf boot World.start, [], []⟩

/-- Someone sends a number, and then a client asks for a swap. -/
def numberFirst : List Arrival := [
  .message Sample.env true ⟨"first", "anyone", some (.int 1)⟩,
  .message Sample.env true ⟨"second", "client", some (.dict [
    ("method", .str "createnormalswap"), ("invoiceAmount", .int 50000),
    ("refundPublicKey", .str (HexText.encode (2 :: List.replicate 32 4)))])⟩]

/-- The client gets no reply. -/
theorem number_ends_loop :
    ¬ Served plainClients listening numberFirst ∧
      (listening.after plainClients numberFirst).sent = [] ∧
      ((listening.after plainClients numberFirst.tail).sent.map DirectMessage.replyTo) = ["second"] := by
  refine ⟨fun h => ?_, by decide +kernel, by decide +kernel⟩
  exact absurd h.goesOn (by decide +kernel)

end Sample

end SubswapProvider
