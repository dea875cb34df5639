import SubswapProvider.Invoices

/-!
# The hand-over of buffered HTLCs

`CLNPlugin` takes `htlc_accepted` messages before there is a hook for them: its handler buffers a
message if it finds the hook not ready. `set_htlc_hook` sets the flag, delivers the buffered messages
and clears the buffer. The handler runs on another thread, so its check and its append come between any
two steps of `set_htlc_hook`.

No message is delivered twice. One that is appended when the replay is over is never delivered, and
these are all that are lost (`htlcs_delivered_once_iff`).
-/

namespace SubswapProvider.Handover

/-- Where `set_htlc_hook` is. -/
inductive Starter
  /-- It was not called. -/
  | waiting
  /-- The flag is set; the length of the buffer is looked at next. -/
  | flagged
  /-- The loop over the buffer, at this index. -/
  | replaying (i : Nat)
  /-- The loop is over; the buffer is cleared next. -/
  | exhausted
  | done
  deriving DecidableEq

/-- The plugin at start-up. -/
structure State (Msg : Type) where
  hook_ready : Bool
  buffered_htlcs : List Msg
  starter : Starter
  /-- Messages whose handler found the hook not ready and is about to append. -/
  unready : List Msg
  /-- Messages whose handler found the hook ready and is about to call it. -/
  passing : List Msg
  /-- The messages lightningd has sent, and those the hook was called with. -/
  received : List Msg
  delivered : List Msg

def start (Msg : Type) : State Msg where
  hook_ready := false
  buffered_htlcs := []
  starter := .waiting
  unready := []
  passing := []
  received := []
  delivered := []

inductive Action (Msg : Type)
  /-- `if not self.__hook_ready.is_set()`, for a message that has just come. -/
  | check (m : Msg)
  /-- `self.__buffered_htlcs.append(..)`. -/
  | append (m : Msg)
  /-- `return self.__htlc_hook(..)`. -/
  | deliver (m : Msg)
  /-- `self.__hook_ready.set()`. -/
  | setReady
  /-- `if len(self.__buffered_htlcs) == 0: return`. -/
  | enterReplay
  /-- One round of the loop. It goes by the index, so it meets what is appended meanwhile. -/
  | replay
  /-- The loop finds the end of the list. -/
  | endReplay
  /-- `self.__buffered_htlcs = []`. -/
  | clear

variable {Msg : Type} [DecidableEq Msg]

/-- One step, if it can be taken. -/
def step (s : State Msg) : Action Msg → Option (State Msg)
  | .check m =>
    if s.hook_ready then some { s with received := s.received ++ [m], passing := s.passing ++ [m] }
    else some { s with received := s.received ++ [m], unready := s.unready ++ [m] }
  | .append m =>
    if m ∈ s.unready then
      some { s with unready := s.unready.erase m, buffered_htlcs := s.buffered_htlcs ++ [m] }
    else none
  | .deliver m =>
    if m ∈ s.passing then
      some { s with passing := s.passing.erase m, delivered := s.delivered ++ [m] }
    else none
  | .setReady =>
    if s.starter = .waiting then some { s with hook_ready := true, starter := .flagged } else none
  | .enterReplay =>
    if s.starter = .flagged then
      some { s with starter := if s.buffered_htlcs = [] then .done else .replaying 0 }
    else none
  | .replay =>
    match s.starter with
    | .replaying i =>
      match s.buffered_htlcs[i]? with
      | some m => some { s with delivered := s.delivered ++ [m], starter := .replaying (i + 1) }
      | none => none
    | _ => none
  | .endReplay =>
    match s.starter with
    | .replaying i => if s.buffered_htlcs.length ≤ i then some { s with starter := .exhausted } else none
    | _ => none
  | .clear =>
    if s.starter = .exhausted then some { s with buffered_htlcs := [], starter := .done } else none

/-- A run of the steps of both threads. -/
def run (s : State Msg) : List (Action Msg) → Option (State Msg)
  | [] => some s
  | a :: as => (step s a).bind fun s' => run s' as

/-- Nothing is on its way: `set_htlc_hook` has returned, and so has every handler. -/
structure Settled (s : State Msg) : Prop where
  starter : s.starter = .done
  unready : s.unready = []
  passing : s.passing = []

/-- An append that the replay does not meet. -/
def Late (s : State Msg) : Action Msg → Prop
  | .append _ => s.starter = .exhausted ∨ s.starter = .done
  | _ => False

instance (s : State Msg) (a : Action Msg) : Decidable (Late s a) := by
  cases a <;> unfold Late <;> infer_instance

/-- No append of the run comes late. -/
def OnTime (s : State Msg) : List (Action Msg) → Prop
  | [] => True
  | a :: as => ¬ Late s a ∧ ∀ s', step s a = some s' → OnTime s' as

/-! ## What becomes of the messages -/

/-- What a step loses. -/
def lostBy (s : State Msg) : Action Msg → List Msg
  | .append m => if Late s (.append m) then [m] else []
  | _ => []

/-- What a run loses. -/
def lostAlong (s : State Msg) : List (Action Msg) → List Msg
  | [] => []
  | a :: as => lostBy s a ++ ((step s a).map fun s' => lostAlong s' as).getD []

/-- What the replay is still going to deliver. -/
def awaiting (s : State Msg) : List Msg :=
  match s.starter with
  | .waiting | .flagged => s.buffered_htlcs
  | .replaying i => s.buffered_htlcs.drop i
  | .exhausted | .done => []

/-- Each message that came was delivered, is on its way, or is lost. -/
structure Accounted (s : State Msg) (lost : List Msg) : Prop where
  count : ∀ x, s.received.count x = s.delivered.count x + s.unready.count x + s.passing.count x +
    (awaiting s).count x + lost.count x
  index : ∀ i, s.starter = .replaying i → i ≤ s.buffered_htlcs.length

theorem accounted_start : Accounted (start Msg) [] := ⟨fun _ => rfl, fun _ h => (nomatch h)⟩

theorem count_erase_add {l : List Msg} {m : Msg} (h : m ∈ l) (x : Msg) :
    (l.erase m).count x + [m].count x = l.count x := by
  have hperm : l.Perm (m :: l.erase m) := List.perm_cons_erase h
  rw [hperm.count_eq]
  simp only [List.count_cons, List.count_nil, Nat.zero_add]

/-- What is appended is delivered later, or it is late. -/
theorem awaiting_append {s : State Msg} (hindex : ∀ i, s.starter = .replaying i → i ≤ s.buffered_htlcs.length)
    {m : Msg} (x : Msg) :
    (awaiting { s with unready := s.unready.erase m, buffered_htlcs := s.buffered_htlcs ++ [m] }).count x +
      (lostBy s (.append m)).count x = (awaiting s).count x + [m].count x := by
  obtain ⟨hook_ready, buffered_htlcs, starter, unready, passing, received, delivered⟩ := s
  cases starter with
  | waiting => simp [awaiting, lostBy, Late]
  | flagged => simp [awaiting, lostBy, Late]
  | replaying i =>
    have hi : i ≤ buffered_htlcs.length := hindex i rfl
    simp [awaiting, lostBy, Late, List.drop_append_of_le_length hi]
  | exhausted => simp [awaiting, lostBy, Late]
  | done => simp [awaiting, lostBy, Late]

/-- **One step.** -/
theorem Accounted.step {s s' : State Msg} {a : Action Msg} {lost : List Msg} (h : Accounted s lost)
    (hs : step s a = some s') : Accounted s' (lost ++ lostBy s a) := by
  have hcount := h.count
  cases a with
  | check m =>
    unfold Handover.step at hs
    dsimp only at hs
    split at hs
    · cases hs
      refine ⟨fun x => ?_, h.index⟩
      have := hcount x
      simp only [lostBy, awaiting, List.count_append, List.append_nil] at this ⊢
      omega
    · cases hs
      refine ⟨fun x => ?_, h.index⟩
      have := hcount x
      simp only [lostBy, awaiting, List.count_append, List.append_nil] at this ⊢
      omega
  | append m =>
    unfold Handover.step at hs
    dsimp only at hs
    split at hs
    · next hm =>
      cases hs
      refine ⟨fun x => ?_, fun i hi => ?_⟩
      · have := hcount x
        have hawaiting := awaiting_append h.index (m := m) x
        have herase := count_erase_add hm x
        rw [List.count_append]
        dsimp only at *
        omega
      · have := h.index i hi
        simp only [List.length_append, List.length_singleton]
        omega
    · cases hs
  | deliver m =>
    unfold Handover.step at hs
    dsimp only at hs
    split at hs
    · next hm =>
      cases hs
      refine ⟨fun x => ?_, h.index⟩
      have := hcount x
      have herase := count_erase_add hm x
      simp only [lostBy, awaiting, List.count_append, List.append_nil] at this ⊢
      omega
    · cases hs
  | setReady =>
    unfold Handover.step at hs
    dsimp only at hs
    split at hs
    · next hwaiting =>
      cases hs
      refine ⟨fun x => ?_, fun i hi => (nomatch hi)⟩
      have := hcount x
      simpa [lostBy, awaiting, hwaiting] using this
    · cases hs
  | enterReplay =>
    unfold Handover.step at hs
    dsimp only at hs
    split at hs
    · next hflagged =>
      cases hs
      refine ⟨fun x => ?_, fun i hi => ?_⟩
      · have := hcount x
        simp only [lostBy, awaiting, hflagged, List.append_nil] at this ⊢
        by_cases hempty : s.buffered_htlcs = []
        · simpa [hempty] using this
        · simpa [hempty] using this
      · dsimp only at hi
        split at hi
        · cases hi
        · cases hi
          exact Nat.zero_le _
    · cases hs
  | replay =>
    unfold Handover.step at hs
    dsimp only at hs
    split at hs
    · next i hstarter =>
      split at hs
      · next m hm =>
        cases hs
        obtain ⟨hlt, hget⟩ := List.getElem?_eq_some_iff.mp hm
        refine ⟨fun x => ?_, fun j hj => ?_⟩
        · have := hcount x
          have hdrop : s.buffered_htlcs.drop i = m :: s.buffered_htlcs.drop (i + 1) := by
            rw [← hget]
            exact List.drop_eq_getElem_cons hlt
          simp only [lostBy, awaiting, hstarter, hdrop, List.append_nil, List.count_append] at this ⊢
          rw [← List.singleton_append, List.count_append] at this
          omega
        · cases hj
          exact hlt
      · cases hs
    · cases hs
  | endReplay =>
    unfold Handover.step at hs
    dsimp only at hs
    split at hs
    · next i hstarter =>
      split at hs
      · next hend =>
        cases hs
        refine ⟨fun x => ?_, fun j hj => (nomatch hj)⟩
        have := hcount x
        simpa [lostBy, awaiting, hstarter, List.drop_of_length_le hend] using this
      · cases hs
    · cases hs
  | clear =>
    unfold Handover.step at hs
    dsimp only at hs
    split at hs
    · next hexhausted =>
      cases hs
      refine ⟨fun x => ?_, fun j hj => (nomatch hj)⟩
      have := hcount x
      simpa [lostBy, awaiting, hexhausted] using this
    · cases hs

/-- **A run.** -/
theorem Accounted.run {as : List (Action Msg)} {s s' : State Msg} {lost : List Msg}
    (h : Accounted s lost) (hs : run s as = some s') : Accounted s' (lost ++ lostAlong s as) := by
  induction as generalizing s lost with
  | nil =>
    cases hs
    simpa [lostAlong] using h
  | cons a as ih =>
    obtain ⟨t, ht, hs⟩ := Option.bind_eq_some_iff.mp hs
    have hrest := ih (h.step ht) hs
    unfold lostAlong
    rw [ht, ← List.append_assoc]
    exact hrest

/-- Nothing is lost if no append comes late, and something is if one does. -/
theorem lostAlong_nil_iff {as : List (Action Msg)} {s s' : State Msg} (hs : run s as = some s') :
    lostAlong s as = [] ↔ OnTime s as := by
  induction as generalizing s with
  | nil => exact ⟨fun _ => trivial, fun _ => rfl⟩
  | cons a as ih =>
    obtain ⟨t, ht, hs⟩ := Option.bind_eq_some_iff.mp hs
    have hlost : lostBy s a = [] ↔ ¬ Late s a := by
      cases a with
      | append m =>
        unfold lostBy
        by_cases hlate : Late s (.append m) <;> simp [hlate]
      | _ => exact ⟨fun _ hlate => hlate, fun _ => rfl⟩
    have honTime : OnTime s (a :: as) ↔ ¬ Late s a ∧ OnTime t as := by
      constructor
      · rintro ⟨hlate, hnext⟩
        exact ⟨hlate, hnext t ht⟩
      · rintro ⟨hlate, hnext⟩
        refine ⟨hlate, fun t' ht' => ?_⟩
        rw [ht] at ht'
        cases ht'
        exact hnext
    unfold lostAlong
    rw [ht, honTime, Option.map_some, Option.getD_some, List.append_eq_nil_iff, hlost, ih hs]

/-- **Every message is delivered once, unless it is appended too late.** In every run no message is
delivered more often than it came. When nothing is on its way any more, each has been delivered as often
as it came if and only if no append of the run was late. -/
theorem htlcs_delivered_once_iff (as : List (Action Msg)) (s : State Msg)
    (h : run (start Msg) as = some s) :
    (∀ m, s.delivered.count m ≤ s.received.count m) ∧
      (Settled s → ((∀ m, s.delivered.count m = s.received.count m) ↔ OnTime (start Msg) as)) := by
  have haccounted := accounted_start.run h
  rw [List.nil_append] at haccounted
  refine ⟨fun m => ?_, fun hsettled => ?_⟩
  · have := haccounted.count m
    omega
  have hlost : ∀ m, s.received.count m = s.delivered.count m + (lostAlong (start Msg) as).count m := by
    intro m
    have := haccounted.count m
    unfold awaiting at this
    rw [hsettled.starter, hsettled.unready, hsettled.passing] at this
    simpa using this
  rw [← lostAlong_nil_iff h]
  constructor
  · intro honce
    apply List.eq_nil_iff_forall_not_mem.mpr
    intro m hm
    have hpos := List.count_pos_iff.mpr hm
    have := hlost m
    have := honce m
    omega
  · intro hnil m
    have := hlost m
    rw [hnil, List.count_nil] at this
    omega

/-- Two messages, one buffered and one passed on. -/
def handedOver : List (Action Nat) :=
  [.check 0, .append 0, .setReady, .check 1, .enterReplay, .replay, .deliver 1, .endReplay, .clear]

theorem htlcs_delivered_once_two : ∃ s, run (start Nat) handedOver = some s ∧ Settled s ∧
    ((∀ m, s.delivered.count m = s.received.count m) ↔ OnTime (start Nat) handedOver) := by
  let last : State Nat := ⟨true, [], .done, [], [], [0, 1], [0, 1]⟩
  have hrun : run (start Nat) handedOver = some last := rfl
  have hsettled : Settled last := ⟨rfl, rfl, rfl⟩
  exact ⟨last, hrun, hsettled, (htlcs_delivered_once_iff handedOver last hrun).2 hsettled⟩

/-- One message, whose handler looks at the flag before it is set and appends when the replay has found
the buffer empty. -/
def overtaken : List (Action Nat) := [.check 0, .setReady, .enterReplay, .append 0]

/-- **The message is lost.** It stays in a buffer that nobody reads. -/
theorem htlc_lost : ¬ ∀ (as : List (Action Nat)) (s : State Nat), run (start Nat) as = some s →
    Settled s → ∀ m, s.delivered.count m = s.received.count m := by
  intro h
  have hcount := h overtaken ⟨true, [0], .done, [], [], [0], []⟩ rfl ⟨rfl, rfl, rfl⟩ 0
  exact absurd hcount (by decide)

/-! ## Runs come to an end -/

/-- The messages that are on their way can all be brought to an end. -/
def Ends (s : State Msg) : Prop := ∃ as s', run s as = some s' ∧ Settled s'

theorem Ends.step {s t : State Msg} {a : Action Msg} (hs : step s a = some t) (h : Ends t) : Ends s := by
  obtain ⟨as, s', hrun, hsettled⟩ := h
  refine ⟨a :: as, s', ?_, hsettled⟩
  show (Handover.step s a).bind _ = _
  rw [hs]
  exact hrun

/-- Without handlers on their way, `set_htlc_hook` comes to its end. -/
theorem ends_of_idle {s : State Msg} (hunready : s.unready = []) (hpassing : s.passing = []) :
    Ends s := by
  obtain ⟨hook_ready, buffered_htlcs, starter, unready, passing, received, delivered⟩ := s
  cases hunready
  cases hpassing
  have hdone {ready : Bool} {buffer delivered : List Msg} :
      Ends ⟨ready, buffer, .done, [], [], received, delivered⟩ := ⟨[], _, rfl, rfl, rfl, rfl⟩
  have hexhausted {ready : Bool} {buffer delivered : List Msg} :
      Ends ⟨ready, buffer, .exhausted, [], [], received, delivered⟩ := Ends.step (a := .clear) rfl hdone
  have hreplaying (k : Nat) : ∀ {ready : Bool} {buffer delivered : List Msg} {i : Nat},
      buffer.length - i = k → Ends ⟨ready, buffer, .replaying i, [], [], received, delivered⟩ := by
    -- induction on what the loop has not reached yet
    induction k with
    | zero =>
      intro ready buffer delivered i hk
      have hend : buffer.length ≤ i := by omega
      have hstep : Handover.step (⟨ready, buffer, .replaying i, [], [], received, delivered⟩ : State Msg)
          .endReplay = some ⟨ready, buffer, .exhausted, [], [], received, delivered⟩ := if_pos hend
      exact Ends.step hstep hexhausted
    | succ k ih =>
      intro ready buffer delivered i hk
      have hi : i < buffer.length := by omega
      have hstep : Handover.step (⟨ready, buffer, .replaying i, [], [], received, delivered⟩ : State Msg)
          .replay = some ⟨ready, buffer, .replaying (i + 1), [], [], received, delivered ++ [buffer[i]]⟩ := by
        unfold Handover.step
        dsimp only
        rw [List.getElem?_eq_getElem hi]
      exact Ends.step hstep (ih (by omega))
  have hflagged {ready : Bool} {buffer delivered : List Msg} :
      Ends ⟨ready, buffer, .flagged, [], [], received, delivered⟩ := by
    have hstep : Handover.step (⟨ready, buffer, .flagged, [], [], received, delivered⟩ : State Msg)
        .enterReplay = some ⟨ready, buffer, if buffer = [] then .done else .replaying 0, [], [], received,
          delivered⟩ := rfl
    apply Ends.step hstep
    split
    · exact hdone
    · exact hreplaying _ rfl
  cases starter with
  | waiting =>
    have hstep : Handover.step
        (⟨hook_ready, buffered_htlcs, .waiting, [], [], received, delivered⟩ : State Msg) .setReady =
        some ⟨true, buffered_htlcs, .flagged, [], [], received, delivered⟩ := rfl
    exact Ends.step hstep hflagged
  | flagged => exact hflagged
  | replaying i => exact hreplaying _ rfl
  | exhausted => exact hexhausted
  | done => exact hdone

/-- **From every state a settled one can be reached**, so there is something that
`htlcs_delivered_once_iff` speaks about, whatever has happened. -/
theorem ends (s : State Msg) : Ends s := by
  -- first the handlers append and deliver what they have, then the hook is set
  have hpassing (l : List Msg) : ∀ {s : State Msg}, s.passing = l → s.unready = [] → Ends s := by
    induction l with
    | nil =>
      intro s hpassing hunready
      exact ends_of_idle hunready hpassing
    | cons m l ih =>
      intro s hpassing hunready
      have hm : m ∈ s.passing := by rw [hpassing]; exact List.mem_cons_self
      apply Ends.step (a := .deliver m) (if_pos hm)
      apply ih
      · show s.passing.erase m = l
        rw [hpassing, List.erase_cons_head]
      · exact hunready
  have hunready (l : List Msg) : ∀ {s : State Msg}, s.unready = l → Ends s := by
    induction l with
    | nil =>
      intro s hunready
      exact hpassing _ rfl hunready
    | cons m l ih =>
      intro s hunready
      have hm : m ∈ s.unready := by rw [hunready]; exact List.mem_cons_self
      apply Ends.step (a := .append m) (if_pos hm)
      apply ih
      show s.unready.erase m = l
      rw [hunready, List.erase_cons_head]
  exact hunready _ rfl

end SubswapProvider.Handover
