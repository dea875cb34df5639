import SubswapProvider.Library.Effect

/-!
# Starting over

A loop that runs its body again as long as the body raises an exception of a certain kind, and that
ends when the body returns or raises another one. `restarting` counts the rounds down, so that it is a
function; `EndsIn` is what it says of the loop without a bound: the rounds that are left over make no
difference (`restarting_more`), so there is one end at most (`EndsIn.unique`).
-/

namespace SubswapProvider.Effect

variable {ε σ : Type} {x : EStateM ε σ PUnit} {again : ε → Bool} {s t u : σ} {e : ε} {n m : Nat}

/-- Run `x`, and run it again as long as it raises an exception in `again`: whether it has come to an
end after `fuel` rounds at most. -/
def restarting (x : EStateM ε σ PUnit) (again : ε → Bool) : Nat → EStateM ε σ Bool
  | 0 => pure false
  | fuel + 1 => tryCatch (x >>= fun _ => pure true) fun e =>
      if again e then restarting x again fuel else pure true

/-- From `s` the loop ends in `t`. -/
def EndsIn (x : EStateM ε σ PUnit) (again : ε → Bool) (s t : σ) : Prop :=
  ∃ fuel, restarting x again fuel s = .ok true t

theorem restarting_returns (h : x s = .ok ⟨⟩ t) : restarting x again (n + 1) s = .ok true t :=
  tryCatch_ok (bind_ok h)

theorem restarting_raises (h : x s = .error e t) (he : again e = false) :
    restarting x again (n + 1) s = .ok true t := by
  unfold restarting
  rw [tryCatch_error (bind_error h), he]
  rfl

theorem restarting_again (h : x s = .error e t) (he : again e = true) :
    restarting x again (n + 1) s = restarting x again n t := by
  rw [restarting, tryCatch_error (bind_error h), if_pos he]

/-- More rounds than it takes make no difference. -/
theorem restarting_more (h : restarting x again n s = .ok true t) (hle : n ≤ m) :
    restarting x again m s = .ok true t := by
  induction n generalizing s m with
  | zero => cases h
  | succ n ih =>
    obtain ⟨m, rfl⟩ : ∃ m', m = m' + 1 := ⟨m - 1, by omega⟩
    cases hr : x s with
    | ok a s' =>
      rw [restarting_returns hr] at h ⊢
      exact h
    | error e s' =>
      cases he : again e with
      | false =>
        rw [restarting_raises hr he] at h ⊢
        exact h
      | true =>
        rw [restarting_again hr he] at h ⊢
        apply ih h
        omega

/-- The loop ends in one state only. -/
theorem EndsIn.unique (h : EndsIn x again s t) (h' : EndsIn x again s u) : t = u := by
  obtain ⟨n, hn⟩ := h
  obtain ⟨m, hm⟩ := h'
  have hn := restarting_more hn (Nat.le_max_left n m)
  have hm := restarting_more hm (Nat.le_max_right n m)
  rw [hn] at hm
  cases hm
  rfl

theorem EndsIn.of_returns (h : x s = .ok ⟨⟩ t) : EndsIn x again s t := ⟨1, restarting_returns h⟩

theorem EndsIn.of_raises (h : x s = .error e t) (he : again e = false) : EndsIn x again s t :=
  ⟨1, restarting_raises h he⟩

theorem EndsIn.of_again (h : x s = .error e t) (he : again e = true) (hends : EndsIn x again t u) :
    EndsIn x again s u := by
  obtain ⟨n, hn⟩ := hends
  exact ⟨n + 1, (restarting_again h he).trans hn⟩

/-- A loop that has ended has run its body, each time from where the last one stopped. -/
theorem EndsIn.iterate (h : EndsIn x again s t) : ∃ k, (final x)^[k] s = t := by
  obtain ⟨n, hn⟩ := h
  induction n generalizing s with
  | zero => cases hn
  | succ n ih =>
    cases hr : x s with
    | ok a s' =>
      rw [restarting_returns hr] at hn
      cases hn
      refine ⟨1, ?_⟩
      simp [final, hr]
    | error e s' =>
      cases he : again e with
      | false =>
        rw [restarting_raises hr he] at hn
        cases hn
        refine ⟨1, ?_⟩
        simp [final, hr]
      | true =>
        rw [restarting_again hr he] at hn
        obtain ⟨k, hk⟩ := ih hn
        refine ⟨k + 1, ?_⟩
        rw [Function.iterate_succ_apply]
        simp only [final, hr]
        exact hk

end SubswapProvider.Effect
