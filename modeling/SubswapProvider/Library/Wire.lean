import Mathlib

/-!
# Reading what has been written

A reader takes a value from the front of a stream or fails. It *reads* a text as a value if that is what
it takes from the text whatever stands behind it (`Reads`): such facts compose as the reader is composed,
and they make the text of a value the only one that is read as this value. What a reader can give at all
is the other direction (`Yields`); a format is understood when both are known.
-/

namespace SubswapProvider.Wire

variable {τ α β : Type}

/-- A program that takes a value from the front of a stream, or fails. -/
abbrev Reader (τ α : Type) := StateT (List τ) Option α

/-- The reader takes `a` from the text `s`, whatever stands behind it. -/
def Reads (r : Reader τ α) (s : List τ) (a : α) : Prop := ∀ rest, r.run (s ++ rest) = some (a, rest)

/-- Whatever the reader takes from a stream satisfies `P`. -/
def Yields (r : Reader τ α) (P : α → Prop) : Prop := ∀ s a rest, r.run s = some (a, rest) → P a

/-- Go on only if `p` holds. -/
def check (p : Prop) [Decidable p] : Reader τ Unit := if p then pure () else failure

/-- Read `n` values one after another. -/
def many (r : Reader τ α) : Nat → Reader τ (List α)
  | 0 => pure []
  | n + 1 => do
    let a ← r
    let l ← many r n
    pure (a :: l)

/-- Read something for each element of a list. -/
def each (r : α → Reader τ β) : List α → Reader τ (List β)
  | [] => pure []
  | a :: l => do
    let b ← r a
    let m ← each r l
    pure (b :: m)

variable {r : Reader τ α} {f : α → Reader τ β} {s t : List τ} {a : α} {b : β}

/-! ## Texts that are read -/

theorem reads_pure (a : α) : Reads (pure a : Reader τ α) [] a := fun _ => rfl

theorem Reads.bind (h : Reads r s a) (hf : Reads (f a) t b) : Reads (r >>= f) (s ++ t) b := by
  intro rest
  rw [StateT.run_bind, List.append_assoc, h]
  exact hf rest

/-- What comes first takes nothing from the stream. -/
theorem Reads.seq (h : Reads r [] a) (hf : Reads (f a) t b) : Reads (r >>= f) t b := h.bind hf

/-- What comes last takes nothing from the stream. -/
theorem Reads.last (h : Reads r s a) (hf : Reads (f a) [] b) : Reads (r >>= f) s b := by
  have hread := h.bind hf
  rwa [List.append_nil] at hread

theorem reads_check {p : Prop} [Decidable p] (hp : p) : Reads (check p : Reader τ Unit) [] () := by
  unfold check
  rw [if_pos hp]
  exact reads_pure ()

theorem reads_many {write : α → List τ} {l : List α} (h : ∀ a ∈ l, Reads r (write a) a) :
    Reads (many r l.length) (l.flatMap write) l := by
  induction l with
  | nil => exact reads_pure []
  | cons a l ih =>
    have ha := h a List.mem_cons_self
    have hl := ih fun a' ha' => h a' (List.mem_cons_of_mem a ha')
    exact ha.bind <| hl.last <| reads_pure (a :: l)

/-- Each element is what the reader is given of the value it has to read for it. -/
theorem reads_each {r : α → Reader τ β} {write : β → List τ} {given : β → α} {m : List β}
    (h : ∀ b ∈ m, Reads (r (given b)) (write b) b) : Reads (each r (m.map given)) (m.flatMap write) m := by
  induction m with
  | nil => exact reads_pure []
  | cons b m ih =>
    have hb := h b List.mem_cons_self
    have hm := ih fun b' hb' => h b' (List.mem_cons_of_mem b hb')
    exact hb.bind <| hm.last <| reads_pure (b :: m)

/-- **Two texts in front of the same stream** are texts of the same value, and end in the same place. -/
theorem Reads.unique {s' u v : List τ} {a' : α} (h : Reads r s a) (h' : Reads r s' a')
    (heq : s ++ u = s' ++ v) : a = a' ∧ u = v := by
  have hread := h u
  rw [heq, h' v] at hread
  cases hread
  exact ⟨rfl, rfl⟩

/-- A text is a text of one value. -/
theorem Reads.injective {a' : α} (h : Reads r s a) (h' : Reads r s a') : a = a' :=
  (h.unique h' (congrArg (· ++ []) (Eq.refl s))).1

/-! ## Values that are read -/

variable {P : α → Prop} {Q : β → Prop}

theorem yields_pure (h : P a) : Yields (pure a : Reader τ α) P := by
  intro s a' rest hread
  cases hread
  exact h

theorem Yields.bind (h : Yields r P) (hf : ∀ a, P a → Yields (f a) Q) : Yields (r >>= f) Q := by
  intro s b rest hread
  rw [StateT.run_bind] at hread
  obtain ⟨⟨a, s'⟩, ha, hb⟩ := Option.bind_eq_some_iff.mp hread
  exact hf a (h s a s' ha) s' b rest hb

theorem yields_check {p : Prop} [Decidable p] : Yields (check p : Reader τ Unit) fun _ => p := by
  intro s a rest hread
  unfold check at hread
  split at hread
  · assumption
  · cases hread

theorem Yields.mono {P' : α → Prop} (h : Yields r P) (hP : ∀ a, P a → P' a) : Yields r P' :=
  fun s a rest hread => hP a (h s a rest hread)

theorem yields_many (h : Yields r P) (n : Nat) :
    Yields (many r n) fun l => l.length = n ∧ ∀ a ∈ l, P a := by
  induction n with
  | zero => exact yields_pure ⟨rfl, fun _ ha => nomatch ha⟩
  | succ n ih =>
    refine h.bind fun a ha => ih.bind fun l hl => yields_pure ⟨?_, ?_⟩
    · rw [List.length_cons, hl.1]
    · intro a' ha'
      rcases List.mem_cons.mp ha' with rfl | ha'
      · exact ha
      · exact hl.2 a' ha'

theorem yields_each {r : α → Reader τ β} {given : β → α} {l : List α}
    (h : ∀ a ∈ l, Yields (r a) fun b => Q b ∧ given b = a) :
    Yields (each r l) fun m => m.map given = l ∧ ∀ b ∈ m, Q b := by
  induction l with
  | nil => exact yields_pure ⟨rfl, fun _ hb => nomatch hb⟩
  | cons a l ih =>
    have hl := ih fun a' ha' => h a' (List.mem_cons_of_mem a ha')
    refine (h a List.mem_cons_self).bind fun b hb => hl.bind fun m hm => yields_pure ⟨?_, ?_⟩
    · rw [List.map_cons, hb.2, hm.1]
    · intro b' hb'
      rcases List.mem_cons.mp hb' with rfl | hb'
      · exact hb.1
      · exact hm.2 b' hb'

end SubswapProvider.Wire
