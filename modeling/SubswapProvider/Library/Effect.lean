import Mathlib

/-!
# Programs with a state and exceptions

`EStateM ε σ` is the monad of an imperative language with exceptions: a program that raises keeps
every change it made before. This file is the program logic the development uses on it.

* `Triple P x Q E` — from a state in `P`, `x` returns in `Q` or raises in `E`.
* `Keeps I x` — `x` keeps the invariant `I` on both exits. An invariant that survives every
  exception is what a long-running service needs: its handlers catch everything and go on.
* `Moves R x` — every change `x` makes is in `R`; an invariant of the moves is one of `x`.
* `Run` — the runs of a system whose steps are guarded by a condition on the state before them.

Every rule is stated for both exits at once, so a proof walks through a program once.
-/

namespace SubswapProvider.Effect

variable {ε σ α β : Type}

/-- The state a program ends in, whether it returns or raises. -/
def final (x : EStateM ε σ α) (s : σ) : σ :=
  match x s with
  | .ok _ t => t
  | .error _ t => t

/-- Whether a program returns. -/
def returns (x : EStateM ε σ α) (s : σ) : Bool :=
  match x s with
  | .ok _ _ => true
  | .error _ _ => false

/-- The exception a program ends in. -/
def raises (x : EStateM ε σ α) (s : σ) : Option ε :=
  match x s with
  | .ok _ _ => none
  | .error e _ => some e

/-! ## Running a program -/

theorem error_of_raises {x : EStateM ε σ α} {s : σ} {e : ε} (h : raises x s = some e) :
    x s = .error e (final x s) := by
  unfold raises at h
  unfold final
  cases hr : x s with
  | ok a t =>
    rw [hr] at h
    cases h
  | error e' t =>
    rw [hr] at h
    cases h
    rfl

theorem bind_ok {y : EStateM ε σ β} {f : β → EStateM ε σ α} {s t : σ} {b : β}
    (h : y s = .ok b t) : (y >>= f) s = f b t := by
  show EStateM.bind y f s = _
  unfold EStateM.bind
  rw [h]

theorem bind_error {y : EStateM ε σ β} {f : β → EStateM ε σ α} {s t : σ} {e : ε}
    (h : y s = .error e t) : (y >>= f) s = .error e t := by
  show EStateM.bind y f s = _
  unfold EStateM.bind
  rw [h]

theorem bind_congr {y z : EStateM ε σ β} {f : β → EStateM ε σ α} {s t : σ} (h : y s = z t) :
    (y >>= f) s = (z >>= f) t := by
  show EStateM.bind y f s = EStateM.bind z f t
  unfold EStateM.bind
  rw [h]

theorem get_bind (f : σ → EStateM ε σ α) (s : σ) : (get >>= f) s = f s s := rfl

theorem modify_bind (g : σ → σ) (f : PUnit → EStateM ε σ α) (s : σ) :
    (modify g >>= f) s = f ⟨⟩ (g s) := rfl

theorem final_bind_ok {y : EStateM ε σ β} {f : β → EStateM ε σ α} {s t : σ} {b : β}
    (h : y s = .ok b t) : final (y >>= f) s = final (f b) t := by
  unfold final
  rw [bind_ok h]

theorem final_bind_error {y : EStateM ε σ β} {f : β → EStateM ε σ α} {s t : σ} {e : ε}
    (h : y s = .error e t) : final (y >>= f) s = t := by
  unfold final
  rw [bind_error h]

theorem final_congr {x y : EStateM ε σ α} {s t : σ} (h : x s = y t) : final x s = final y t := by
  unfold final
  rw [h]

theorem tryCatch_ok {y : EStateM ε σ α} {handler : ε → EStateM ε σ α} {s t : σ} {a : α}
    (h : y s = .ok a t) : tryCatch y handler s = .ok a t := by
  show EStateM.tryCatch y handler s = _
  unfold EStateM.tryCatch
  rw [h]

theorem tryCatch_error {y : EStateM ε σ α} {handler : ε → EStateM ε σ α} {s t : σ} {e : ε}
    (h : y s = .error e t) : tryCatch y handler s = handler e t := by
  show EStateM.tryCatch y handler s = _
  unfold EStateM.tryCatch
  rw [h]
  rfl

/-! ## Triples -/

/-- From a state in `P`, `x` returns in `Q` or raises in `E`. -/
def Triple (P : σ → Prop) (x : EStateM ε σ α) (Q : α → σ → Prop) (E : ε → σ → Prop) : Prop :=
  ∀ s, P s → match x s with
    | .ok a t => Q a t
    | .error e t => E e t

/-- `x` keeps `I`, whether it returns or raises. -/
def Keeps (I : σ → Prop) (x : EStateM ε σ α) : Prop :=
  Triple I x (fun _ => I) (fun _ => I)

/-! ## The rules of triples -/

section Rules

variable {P R I : σ → Prop} {Q S : α → σ → Prop} {E F : ε → σ → Prop}
variable {x : EStateM ε σ α}

theorem Triple.conseq (h : Triple R x S F) (hP : ∀ s, P s → R s)
    (hQ : ∀ a s, S a s → Q a s) (hE : ∀ e s, F e s → E e s) : Triple P x Q E := by
  intro s hs
  have hx := h s (hP s hs)
  cases hr : x s with
  | ok a t => rw [hr] at hx; exact hQ a t hx
  | error e t => rw [hr] at hx; exact hE e t hx

theorem Triple.pre (h : Triple R x Q E) (hP : ∀ s, P s → R s) : Triple P x Q E :=
  h.conseq hP (fun _ _ => id) (fun _ _ => id)

theorem Triple.post (h : Triple P x S E) (hQ : ∀ a s, S a s → Q a s) : Triple P x Q E :=
  h.conseq (fun _ => id) hQ (fun _ _ => id)

theorem Triple.pure {a : α} (h : ∀ s, P s → Q a s) :
    Triple P (Pure.pure a : EStateM ε σ α) Q E :=
  fun s hs => h s hs

theorem Triple.throw {e : ε} (h : ∀ s, P s → E e s) :
    Triple P (throw e : EStateM ε σ α) Q E :=
  fun s hs => h s hs

theorem Triple.bind {R : β → σ → Prop} {y : EStateM ε σ β} {f : β → EStateM ε σ α}
    (hy : Triple P y R E) (hf : ∀ b, Triple (R b) (f b) Q E) : Triple P (y >>= f) Q E := by
  intro s hs
  have h := hy s hs
  show match EStateM.bind y f s with | .ok a t => Q a t | .error e t => E e t
  unfold EStateM.bind
  cases hr : y s with
  | ok b t => rw [hr] at h; exact hf b t h
  | error e t => rw [hr] at h; exact h

/-- Reading the state and going on: the rest knows the state it read. -/
theorem Triple.getBind {f : σ → EStateM ε σ α}
    (h : ∀ w, P w → Triple (· = w) (f w) Q E) : Triple P (get >>= f) Q E :=
  fun s hs => h s hs s rfl

/-- Changing the state and going on. -/
theorem Triple.modifyBind {f : σ → σ} {g : PUnit → EStateM ε σ α} (hP : ∀ s, P s → R (f s))
    (h : Triple R (g ⟨⟩) Q E) : Triple P (modify f >>= g) Q E :=
  fun s hs => h (f s) (hP s hs)

theorem Triple.modify {Q : PUnit → σ → Prop} {f : σ → σ} (h : ∀ s, P s → Q ⟨⟩ (f s)) :
    Triple P (modify f : EStateM ε σ PUnit) Q E :=
  fun s hs => h s hs

/-- What is known of the state may be read before the program runs. -/
theorem Triple.at (h : ∀ w, P w → Triple (· = w) x Q E) : Triple P x Q E :=
  fun s hs => h s hs s rfl

/-- What is known before and says nothing of the state. -/
theorem Triple.of_const_and {p : Prop} (h : p → Triple P x Q E) :
    Triple (fun s => p ∧ P s) x Q E :=
  fun s hs => h hs.1 s hs.2

/-- Two things said of one program hold together. -/
theorem Triple.and (h : Triple P x Q E) (h' : Triple R x S F) :
    Triple (fun s => P s ∧ R s) x (fun a s => Q a s ∧ S a s) (fun e s => E e s ∧ F e s) := by
  intro s hs
  have h₁ := h s hs.1
  have h₂ := h' s hs.2
  cases hr : x s with
  | ok a t => rw [hr] at h₁ h₂; exact ⟨h₁, h₂⟩
  | error e t => rw [hr] at h₁ h₂; exact ⟨h₁, h₂⟩

/-- `try x except e: handler e`, where the handler sees the state `x` raised in. -/
theorem Triple.tryCatch {R : ε → σ → Prop} {handler : ε → EStateM ε σ α}
    (hx : Triple P x Q R) (hh : ∀ e, Triple (R e) (handler e) Q E) :
    Triple P (tryCatch x handler) Q E := by
  intro s hs
  have h := hx s hs
  show match EStateM.tryCatch x handler s with | .ok a t => Q a t | .error e t => E e t
  unfold EStateM.tryCatch
  cases hr : x s with
  | ok a t => rw [hr] at h; exact h
  | error e t => rw [hr] at h; exact hh e t h

/-- A loop over a list: an invariant of the body is one of the loop. -/
theorem Triple.forM {l : List β} {f : β → EStateM ε σ PUnit}
    (h : ∀ b ∈ l, Triple I (f b) (fun _ => I) E) : Triple I (l.forM f) (fun _ => I) E := by
  induction l with
  | nil => exact Triple.pure (fun _ => id)
  | cons b bs ih =>
    have hb : Triple I (f b) (fun _ => I) E := h b List.mem_cons_self
    have hbs : Triple I (bs.forM f) (fun _ => I) E :=
      ih fun c hc => h c (List.mem_cons_of_mem b hc)
    exact hb.bind fun _ => hbs

end Rules

/-- What holds at both exits holds of the final state. -/
theorem Triple.final {P R : σ → Prop} {x : EStateM ε σ α}
    (h : Triple P x (fun _ => R) (fun _ => R)) {s : σ} (hs : P s) : R (final x s) := by
  have hx := h s hs
  unfold Effect.final
  cases hr : x s with
  | ok a t => rw [hr] at hx; exact hx
  | error e t => rw [hr] at hx; exact hx

/-! ## Invariants of programs -/

section Invariants

variable {I : σ → Prop} {x : EStateM ε σ α}

theorem Keeps.final (h : Keeps I x) {s : σ} (hs : I s) : I (final x s) :=
  Triple.final h hs

theorem Keeps.pure {a : α} : Keeps I (Pure.pure a : EStateM ε σ α) :=
  Triple.pure fun _ => id

theorem Keeps.throw {e : ε} : Keeps I (throw e : EStateM ε σ α) :=
  Triple.throw fun _ => id

theorem Keeps.bind {y : EStateM ε σ β} {f : β → EStateM ε σ α}
    (hy : Keeps I y) (hf : ∀ b, Keeps I (f b)) : Keeps I (y >>= f) :=
  Triple.bind hy hf

theorem Keeps.getBind {f : σ → EStateM ε σ α} (h : ∀ w, I w → Triple (· = w) (f w) (fun _ => I)
    (fun _ => I)) : Keeps I (get >>= f) :=
  Triple.getBind h

/-- Reading the state to choose what to do. -/
theorem Keeps.get {f : σ → EStateM ε σ α} (h : ∀ w, Keeps I (f w)) : Keeps I (get >>= f) :=
  Triple.getBind fun w hw => (h w).pre fun _ e => e ▸ hw

theorem Keeps.modify {f : σ → σ} (h : ∀ s, I s → I (f s)) :
    Keeps I (modify f : EStateM ε σ PUnit) :=
  Triple.modify h

theorem Keeps.ite {c : Prop} [Decidable c] {y : EStateM ε σ α} (hx : Keeps I x)
    (hy : Keeps I y) : Keeps I (if c then x else y) := by
  split
  · exact hx
  · exact hy

theorem Keeps.tryCatch {handler : ε → EStateM ε σ α}
    (hx : Keeps I x) (hh : ∀ e, Keeps I (handler e)) : Keeps I (tryCatch x handler) :=
  Triple.tryCatch hx hh

theorem Keeps.forM {l : List β} {f : β → EStateM ε σ PUnit} (h : ∀ b ∈ l, Keeps I (f b)) :
    Keeps I (l.forM f) :=
  Triple.forM h

/-- What only ever moves along `R` keeps every invariant that `R` keeps. -/
theorem Keeps.of_rel {R : σ → σ → Prop} (h : ∀ s, Keeps (R s) x) (refl : ∀ s, R s s)
    (hI : ∀ s t, R s t → I s → I t) : Keeps I x := by
  intro s hs
  have hx := h s s (refl s)
  cases hr : x s with
  | ok a t => rw [hr] at hx; exact hI s t hx hs
  | error e t => rw [hr] at hx; exact hI s t hx hs

end Invariants

/-! ## Which exceptions a program raises -/

section Raises

variable {E : ε → Prop} {x : EStateM ε σ α}

/-- Every exception of `x` is in `E`, from whatever state it runs. -/
def RaisesOnly (E : ε → Prop) (x : EStateM ε σ α) : Prop :=
  Triple (fun _ => True) x (fun _ _ => True) (fun e _ => E e)

theorem RaisesOnly.pure {a : α} : RaisesOnly E (Pure.pure a : EStateM ε σ α) :=
  fun _ _ => trivial

theorem RaisesOnly.throw {e : ε} (h : E e) : RaisesOnly E (throw e : EStateM ε σ α) :=
  fun _ _ => h

theorem RaisesOnly.modify {f : σ → σ} : RaisesOnly E (modify f : EStateM ε σ PUnit) :=
  fun _ _ => trivial

theorem RaisesOnly.bind {y : EStateM ε σ β} {f : β → EStateM ε σ α} (hy : RaisesOnly E y)
    (hf : ∀ b, RaisesOnly E (f b)) : RaisesOnly E (y >>= f) :=
  Triple.bind hy hf

theorem RaisesOnly.get {f : σ → EStateM ε σ α} (h : ∀ w, RaisesOnly E (f w)) :
    RaisesOnly E (get >>= f) :=
  Triple.getBind fun w _ => (h w).pre fun _ _ => trivial

theorem RaisesOnly.ite {c : Prop} [Decidable c] {y : EStateM ε σ α} (hx : RaisesOnly E x)
    (hy : RaisesOnly E y) : RaisesOnly E (if c then x else y) := by
  split
  · exact hx
  · exact hy

/-- What an invariant says of the state and this says of the exception hold together. -/
theorem RaisesOnly.and {P : σ → Prop} {Q : α → σ → Prop} {F : ε → σ → Prop}
    (h : RaisesOnly E x) (hx : Triple P x Q F) :
    Triple P x Q (fun e s => E e ∧ F e s) := by
  intro s hs
  have h₁ := h s trivial
  have h₂ := hx s hs
  cases hr : x s with
  | ok a t => rw [hr] at h₂; exact h₂
  | error e t => rw [hr] at h₁ h₂; exact ⟨h₁, h₂⟩

end Raises

/-! ## Moves

What a program can do to the state, said once: every change it makes is a move in `R`. Whatever the
moves keep, the program keeps (`Walks.keeps`), so an invariant is checked move by move and not
program by program. The conditions before and after carry what the program has read, for the moves
that need it. -/

section Moves

/-- From a state in `P`, `x` changes the state by moves in `R` only, and returns in `Q`. -/
def Walks (R : σ → σ → Prop) (P : σ → Prop) (x : EStateM ε σ α) (Q : α → σ → Prop) : Prop :=
  ∀ s₀, Triple (fun s => Relation.ReflTransGen R s₀ s ∧ P s) x
    (fun a s => Relation.ReflTransGen R s₀ s ∧ Q a s) (fun _ s => Relation.ReflTransGen R s₀ s)

/-- The same without a word on what holds before and after. -/
def Moves (R : σ → σ → Prop) (x : EStateM ε σ α) : Prop :=
  Walks R (fun _ => True) x fun _ _ => True

variable {R : σ → σ → Prop} {P S : σ → Prop} {Q T : α → σ → Prop} {x : EStateM ε σ α}

theorem Walks.conseq (h : Walks R S x T) (hP : ∀ s, P s → S s) (hQ : ∀ a s, T a s → Q a s) :
    Walks R P x Q :=
  fun s₀ => (h s₀).conseq (fun _ hs => ⟨hs.1, hP _ hs.2⟩) (fun _ _ hs => ⟨hs.1, hQ _ _ hs.2⟩)
    fun _ _ => id

theorem Walks.pre (h : Walks R S x Q) (hP : ∀ s, P s → S s) : Walks R P x Q :=
  h.conseq hP fun _ _ => id

theorem Walks.post (h : Walks R P x T) (hQ : ∀ a s, T a s → Q a s) : Walks R P x Q :=
  h.conseq (fun _ => id) hQ

theorem Walks.forget (h : Walks R P x Q) : Walks R P x fun _ _ => True :=
  h.post fun _ _ _ => trivial

/-- What no move needs may be known before. -/
theorem Moves.walks (h : Moves R x) : Walks R P x fun _ _ => True :=
  h.pre fun _ _ => trivial

theorem Walks.moves (h : Walks R (fun _ => True) x Q) : Moves R x := h.forget

theorem Walks.of_const_and {p : Prop} (h : p → Walks R S x Q) : Walks R (fun s => p ∧ S s) x Q :=
  fun s₀ s hs => h hs.2.1 s₀ s ⟨hs.1, hs.2.2⟩

/-- What the program keeps can be carried past it. -/
theorem Walks.and (h : Walks R P x Q) {E : ε → σ → Prop} (hS : Triple S x T E) :
    Walks R (fun s => P s ∧ S s) x fun a s => Q a s ∧ T a s := by
  intro s₀ s hs
  have h₁ := h s₀ s ⟨hs.1, hs.2.1⟩
  have h₂ := hS s hs.2.2
  cases hr : x s with
  | ok a t => rw [hr] at h₁ h₂; exact ⟨h₁.1, h₁.2, h₂⟩
  | error e t => rw [hr] at h₁; exact h₁

theorem Moves.and (h : Moves R x) (hS : Keeps S x) : Walks R S x fun _ => S :=
  (Walks.and h hS).conseq (fun _ hs => ⟨trivial, hs⟩) fun _ _ hs => hs.2

theorem Walks.pure {a : α} (h : ∀ s, P s → Q a s) : Walks R P (Pure.pure a : EStateM ε σ α) Q :=
  fun _ => Triple.pure fun s hs => ⟨hs.1, h s hs.2⟩

theorem Walks.throw {e : ε} : Walks R P (throw e : EStateM ε σ α) Q :=
  fun _ => Triple.throw fun _ hs => hs.1

theorem Walks.bind {U : β → σ → Prop} {y : EStateM ε σ β} {f : β → EStateM ε σ α}
    (hy : Walks R P y U) (hf : ∀ b, Walks R (U b) (f b) Q) : Walks R P (y >>= f) Q :=
  fun s₀ => Triple.bind (hy s₀) fun b => hf b s₀

/-- Reading the state: the rest knows the state it read. -/
theorem Walks.get {f : σ → EStateM ε σ α} (h : ∀ w, P w → Walks R (· = w) (f w) Q) :
    Walks R P (get >>= f) Q :=
  fun s₀ => Triple.getBind fun w hw => (h w hw.2 s₀).pre fun _ hs => ⟨hs ▸ hw.1, hs⟩

/-- Two changes that are one move. -/
theorem Walks.modifyTwice {f g : σ → σ} {h : PUnit → EStateM ε σ α}
    (hmove : ∀ s, P s → R s (g (f s)) ∧ S (g (f s))) (hrest : Walks R S (h ⟨⟩) Q) :
    Walks R P (modify f >>= fun _ => modify g >>= h) Q :=
  fun s₀ s hs => hrest s₀ (g (f s)) ⟨hs.1.tail (hmove s hs.2).1, (hmove s hs.2).2⟩

/-- A change that is a move. -/
theorem Walks.modify {Q : PUnit → σ → Prop} {f : σ → σ} (h : ∀ s, P s → R s (f s) ∧ Q ⟨⟩ (f s)) :
    Walks R P (modify f : EStateM ε σ PUnit) Q :=
  fun _ => Triple.modify fun s hs => ⟨hs.1.tail (h s hs.2).1, (h s hs.2).2⟩

theorem Walks.ite {c : Prop} [Decidable c] {y : EStateM ε σ α} (hx : c → Walks R P x Q)
    (hy : ¬ c → Walks R P y Q) : Walks R P (if c then x else y) Q := by
  by_cases hc : c
  · rw [if_pos hc]; exact hx hc
  · rw [if_neg hc]; exact hy hc

theorem Walks.tryCatch {handler : ε → EStateM ε σ α} (hx : Walks R P x Q)
    (hh : ∀ e, Walks R (fun _ => True) (handler e) Q) : Walks R P (tryCatch x handler) Q :=
  fun s₀ => Triple.tryCatch (hx s₀) fun e => (hh e s₀).pre fun _ hs => ⟨hs, trivial⟩

/-- A loop, `P` of what is left of the list being the invariant. -/
theorem Walks.forM {P : List β → σ → Prop} {f : β → EStateM ε σ PUnit} {l : List β}
    (h : ∀ b bs, (b :: bs) <:+ l → Walks R (P (b :: bs)) (f b) fun _ => P bs) :
    Walks R (P l) (l.forM f) fun _ => P [] := by
  induction l with
  | nil => exact Walks.pure fun _ hs => hs
  | cons b bs ih =>
    refine Walks.bind (h b bs (List.suffix_refl _)) fun _ => ?_
    exact ih fun c cs hc => h c cs (hc.trans (List.suffix_cons b bs))

theorem Moves.pure {a : α} : Moves R (Pure.pure a : EStateM ε σ α) :=
  Walks.pure fun _ _ => trivial

theorem Moves.throw {e : ε} : Moves R (throw e : EStateM ε σ α) := Walks.throw

theorem Moves.bind {y : EStateM ε σ β} {f : β → EStateM ε σ α} (hy : Moves R y)
    (hf : ∀ b, Moves R (f b)) : Moves R (y >>= f) :=
  Walks.bind hy hf

theorem Moves.get {f : σ → EStateM ε σ α} (h : ∀ w, Moves R (f w)) : Moves R (get >>= f) :=
  Walks.get fun w _ => (h w).walks

theorem Moves.modify {f : σ → σ} (h : ∀ s, R s (f s)) :
    Moves R (modify f : EStateM ε σ PUnit) :=
  Walks.modify fun s _ => ⟨h s, trivial⟩

theorem Moves.ite {c : Prop} [Decidable c] {y : EStateM ε σ α} (hx : Moves R x)
    (hy : Moves R y) : Moves R (if c then x else y) :=
  Walks.ite (fun _ => hx) fun _ => hy

theorem Moves.tryCatch {handler : ε → EStateM ε σ α} (hx : Moves R x)
    (hh : ∀ e, Moves R (handler e)) : Moves R (tryCatch x handler) :=
  Walks.tryCatch hx hh

theorem Moves.forM {f : β → EStateM ε σ PUnit} {l : List β} (h : ∀ b ∈ l, Moves R (f b)) :
    Moves R (l.forM f) :=
  Walks.forM (P := fun _ _ => True) fun b _ hb => h b (hb.mem List.mem_cons_self)

/-- **Invariant rule for moves.** -/
theorem Walks.keeps {I : σ → Prop} (h : Walks R P x Q) (hI : ∀ s t, R s t → I s → I t) :
    Triple (fun s => I s ∧ P s) x (fun a s => I s ∧ Q a s) fun _ => I := by
  have hall : ∀ {s t}, Relation.ReflTransGen R s t → I s → I t := by
    intro s t hst hs
    induction hst with
    | refl => exact hs
    | tail _ hstep ih => exact hI _ _ hstep ih
  intro s hs
  have hx := h s s ⟨.refl, hs.2⟩
  cases hr : x s with
  | ok a t => rw [hr] at hx; exact ⟨hall hx.1 hs.1, hx.2⟩
  | error e t => rw [hr] at hx; exact hall hx hs.1

theorem Moves.keeps {I : σ → Prop} (h : Moves R x) (hI : ∀ s t, R s t → I s → I t) : Keeps I x :=
  (Walks.keeps h hI).conseq (fun _ hs => ⟨hs, trivial⟩) (fun _ _ hs => hs.1) fun _ _ => id

/-- More moves allow more. -/
theorem Walks.mono {R' : σ → σ → Prop} (h : Walks R P x Q) (hR : ∀ s t, R s t → R' s t) :
    Walks R' P x Q := by
  intro s₀ s hs
  have hx := h s s ⟨.refl, hs.2⟩
  have hlift : ∀ {s t}, Relation.ReflTransGen R s t → Relation.ReflTransGen R' s t :=
    fun hst => Relation.ReflTransGen.mono hR _ _ hst
  cases hr : x s with
  | ok a t => rw [hr] at hx; exact ⟨hs.1.trans (hlift hx.1), hx.2⟩
  | error e t => rw [hr] at hx; exact hs.1.trans (hlift hx)

end Moves

/-! ## Runs of a guarded system -/

section Runs

variable {Act : Type}

/-- One step of a system with the transition function `step`, taken where `ok` allows it. -/
def Step (step : Act → σ → σ) (ok : σ → Act → Prop) (s t : σ) : Prop :=
  ∃ a, ok s a ∧ t = step a s

/-- The runs of the system: any number of allowed steps. -/
def Run (step : Act → σ → σ) (ok : σ → Act → Prop) : σ → σ → Prop :=
  Relation.ReflTransGen (Step step ok)

variable {step : Act → σ → σ} {ok : σ → Act → Prop}

/-- **Invariant rule**: what every allowed step keeps holds in every state a run reaches. -/
theorem Run.invariant {I : σ → Prop} (hstep : ∀ t a, ok t a → I t → I (step a t)) {s t : σ}
    (h : Run step ok s t) (hs : I s) : I t := by
  induction h with
  | refl => exact hs
  | tail _ ht ih =>
    obtain ⟨a, ha, rfl⟩ := ht
    exact hstep _ a ha ih

theorem Run.snoc {s t : σ} (h : Run step ok s t) (a : Act) (ha : ok t a) :
    Run step ok s (step a t) :=
  Relation.ReflTransGen.tail h ⟨a, ha, rfl⟩

/-- Each of the actions is allowed where it is taken. -/
def Allows (step : Act → σ → σ) (ok : σ → Act → Prop) : σ → List Act → Prop
  | _, [] => True
  | s, a :: actions => ok s a ∧ Allows step ok (step a s) actions

instance Allows.decidable [∀ s a, Decidable (ok s a)] :
    ∀ s actions, Decidable (Allows step ok s actions)
  | _, [] => .isTrue trivial
  | s, a :: actions =>
    have : Decidable (Allows step ok (step a s) actions) := Allows.decidable (step a s) actions
    inferInstanceAs (Decidable (ok s a ∧ Allows step ok (step a s) actions))

/-- Allowed actions one after another are a run. -/
theorem Run.of_allows {s t : σ} (h : Run step ok s t) {actions : List Act}
    (hactions : Allows step ok t actions) :
    Run step ok s (actions.foldl (fun t a => step a t) t) := by
  induction actions generalizing t with
  | nil => exact h
  | cons a actions ih => exact ih (h.snoc a hactions.1) hactions.2

theorem Allows.append_iff {s : σ} {l m : List Act} :
    Allows step ok s (l ++ m) ↔
      Allows step ok s l ∧ Allows step ok (l.foldl (fun t a => step a t) s) m := by
  induction l generalizing s with
  | nil => exact ⟨fun h => ⟨trivial, h⟩, fun h => h.2⟩
  | cons a l ih =>
    show ok s a ∧ Allows step ok (step a s) (l ++ m) ↔ (ok s a ∧ Allows step ok (step a s) l) ∧ _
    rw [ih, and_assoc]
    rfl

theorem Allows.congr {ok' : σ → Act → Prop} (h : ∀ s a, ok s a ↔ ok' s a) {s : σ} {l : List Act} :
    Allows step ok s l ↔ Allows step ok' s l := by
  induction l generalizing s with
  | nil => exact Iff.rfl
  | cons a l ih => exact and_congr (h s a) ih

/-- **Simulation rule**: where the states of two systems are related, one allows an action exactly when
the other does, and allowed actions keep them related. Then they allow the same actions, and the states
these lead to are related. The relation may depend on the actions that are left. -/
theorem Allows.simulate {τ : Type} {step' : Act → τ → τ} {ok' : τ → Act → Prop}
    {R : List Act → τ → σ → Prop}
    (h : ∀ a l p s, R (a :: l) p s →
      (ok s a ↔ ok' p a) ∧ (ok' p a → R l (step' a p) (step a s)))
    {l m : List Act} {p : τ} {s : σ} (hR : R (l ++ m) p s) :
    (Allows step ok s l ↔ Allows step' ok' p l) ∧
      (Allows step' ok' p l →
        R m (l.foldl (fun p a => step' a p) p) (l.foldl (fun s a => step a s) s)) := by
  induction l generalizing p s with
  | nil => exact ⟨Iff.rfl, fun _ => hR⟩
  | cons a l ih =>
    obtain ⟨hsame, hnext⟩ := h a (l ++ m) p s hR
    constructor
    · exact (and_congr_left' hsame).trans (and_congr_right fun hok => (ih (hnext hok)).1)
    · rintro ⟨hok, hrest⟩
      exact (ih (hnext hok)).2 hrest

/-! ### Loops that an exception ends -/

variable {f : Act → EStateM ε σ PUnit}

/-- A loop returns when its body returns every time. -/
theorem forM_returns_iff {l : List Act} {s : σ} :
    returns (l.forM f) s = true ↔
      Allows (fun a t => final (f a) t) (fun t a => returns (f a) t = true) s l := by
  induction l generalizing s with
  | nil => exact ⟨fun _ => trivial, fun _ => rfl⟩
  | cons a l ih =>
    show returns (f a >>= fun _ => l.forM f) s = true ↔
      returns (f a) s = true ∧ Allows _ _ (final (f a) s) l
    unfold returns final
    cases hr : f a s with
    | ok b t =>
      rw [bind_ok hr]
      exact ih.trans ⟨fun h => ⟨rfl, h⟩, fun h => h.2⟩
    | error e t =>
      rw [bind_error hr]
      exact ⟨fun h => (nomatch h), fun h => (nomatch h.1)⟩

/-- It ends where its body has led, one element after another. -/
theorem final_forM {l : List Act} {s : σ} (h : returns (l.forM f) s = true) :
    final (l.forM f) s = l.foldl (fun t a => final (f a) t) s := by
  induction l generalizing s with
  | nil => rfl
  | cons a l ih =>
    have hfirst : returns (f a) s = true := (forM_returns_iff.mp h).1
    change returns (f a >>= fun _ => l.forM f) s = true at h
    show final (f a >>= fun _ => l.forM f) s = l.foldl _ (final (f a) s)
    cases hr : f a s with
    | ok b t =>
      have hfinal : final (f a) s = t := by
        unfold final
        rw [hr]
      rw [final_bind_ok hr, hfinal]
      refine ih ?_
      unfold returns at h ⊢
      rw [bind_ok hr] at h
      exact h
    | error e t =>
      unfold returns at hfirst
      rw [hr] at hfirst
      cases hfirst

/-- Turns that do nothing may be left out. -/
theorem forM_idle {l m : List Act} {s : σ} (h : ∀ a ∈ l, f a s = .ok ⟨⟩ s) :
    (l ++ m).forM f s = m.forM f s := by
  induction l with
  | nil => rfl
  | cons a l ih =>
    show (f a >>= fun _ => (l ++ m).forM f) s = m.forM f s
    rw [bind_ok (h a List.mem_cons_self)]
    exact ih fun b hb => h b (List.mem_cons_of_mem a hb)

/-- A loop whose first turn raises. -/
theorem forM_raises {a : Act} {l : List Act} {s t : σ} {e : ε} (h : f a s = .error e t) :
    (a :: l).forM f s = .error e t :=
  bind_error h

/-- What follows an element whose turn raises is never looked at. -/
theorem final_forM_stops {l : List Act} {s : σ} (h : returns (l.forM f) s = true) {a : Act}
    (ha : returns (f a) (final (l.forM f) s) = false) (m : List Act) :
    final ((l ++ a :: m).forM f) s = final (f a) (final (l.forM f) s) := by
  induction l generalizing s with
  | nil =>
    change returns (f a) s = false at ha
    show final (f a >>= fun _ => m.forM f) s = final (f a) s
    cases hr : f a s with
    | ok b t =>
      unfold returns at ha
      rw [hr] at ha
      cases ha
    | error e t =>
      rw [final_bind_error hr]
      unfold final
      rw [hr]
  | cons b l ih =>
    have hfirst : returns (f b) s = true := (forM_returns_iff.mp h).1
    change returns (f b >>= fun _ => l.forM f) s = true at h
    change returns (f a) (final (f b >>= fun _ => l.forM f) s) = false at ha
    show final (f b >>= fun _ => (l ++ a :: m).forM f) s
      = final (f a) (final (f b >>= fun _ => l.forM f) s)
    cases hr : f b s with
    | ok x t =>
      rw [final_bind_ok hr] at ha ⊢
      rw [final_bind_ok hr]
      refine ih ?_ ha
      unfold returns at h ⊢
      rw [bind_ok hr] at h
      exact h
    | error e t =>
      unfold returns at hfirst
      rw [hr] at hfirst
      cases hfirst

/-- **What a loop adds to a log** is what the turns add that it comes to. -/
theorem log_forM {ω : Type} (log : σ → List ω) (hgrows : ∀ a s, ∃ es, log (final (f a) s) = es ++ log s)
    (l : List Act) (s : σ) : ∃ es, log (final (l.forM f) s) = es ++ log s ∧ ∀ x, x ∈ es ↔
      ∃ pre a post, l = pre ++ a :: post ∧ returns (pre.forM f) s = true ∧
        ∃ es', log (final (f a) (final (pre.forM f) s)) = es' ++ log (final (pre.forM f) s) ∧ x ∈ es' := by
  induction l generalizing s with
  | nil =>
    refine ⟨[], rfl, fun x => ⟨fun hx => (nomatch hx), ?_⟩⟩
    rintro ⟨pre, a, post, hl, -⟩
    simp at hl
  | cons a l ih =>
    obtain ⟨es₁, h₁⟩ := hgrows a s
    have hhead : ∀ {x}, x ∈ es₁ → ∃ pre b post, a :: l = pre ++ b :: post ∧
        returns (pre.forM f) s = true ∧ ∃ es', log (final (f b) (final (pre.forM f) s)) =
          es' ++ log (final (pre.forM f) s) ∧ x ∈ es' :=
      fun hx => ⟨[], a, l, rfl, rfl, es₁, h₁, hx⟩
    cases hr : f a s with
    | ok b t =>
      have hfinal : final (f a) s = t := by
        unfold final
        rw [hr]
      have hskip : ∀ pre : List Act, (a :: pre).forM f s = pre.forM f t := fun pre => bind_ok hr
      obtain ⟨es₂, h₂, hmem⟩ := ih t
      refine ⟨es₂ ++ es₁, ?_, fun x => ?_⟩
      · rw [final_congr (hskip l), h₂, ← hfinal, h₁, List.append_assoc]
      · rw [List.mem_append]
        constructor
        · rintro (hx | hx)
          · obtain ⟨pre, c, post, rfl, hreturns, hlog⟩ := (hmem x).mp hx
            refine ⟨a :: pre, c, post, rfl, ?_, ?_⟩
            · unfold returns at hreturns ⊢
              rw [hskip]
              exact hreturns
            · rw [final_congr (hskip pre)]
              exact hlog
          · exact hhead hx
        · rintro ⟨pre, c, post, hl, hreturns, es', hlog, hx⟩
          cases pre with
          | nil =>
            cases hl
            right
            rwa [← List.append_cancel_right (hlog.symm.trans h₁)]
          | cons d pre =>
            cases hl
            left
            refine (hmem x).mpr ⟨pre, c, post, rfl, ?_, es', ?_, hx⟩
            · unfold returns at hreturns ⊢
              rw [← hskip]
              exact hreturns
            · rw [← final_congr (hskip pre)]
              exact hlog
    | error e t =>
      refine ⟨es₁, ?_, fun x => ⟨hhead, ?_⟩⟩
      · show log (final (f a >>= fun _ => l.forM f) s) = _
        rw [final_bind_error hr, ← h₁]
        unfold final
        rw [hr]
      · rintro ⟨pre, c, post, hl, hreturns, es', hlog, hx⟩
        cases pre with
        | nil =>
          cases hl
          rwa [← List.append_cancel_right (hlog.symm.trans h₁)]
        | cons d pre =>
          cases hl
          have hraises : (a :: pre).forM f s = .error e t := bind_error hr
          unfold returns at hreturns
          rw [hraises] at hreturns
          cases hreturns

end Runs

end SubswapProvider.Effect
