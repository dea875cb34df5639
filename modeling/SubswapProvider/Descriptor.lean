import SubswapProvider.Bech32

/-!
# Descriptor checksums

The checksum of an output descriptor is computed in two places. `descsum_create` of `utils.py` makes
the list of all symbols and runs `_descsum_polymod` on it; `AddChecksum` of `descriptor.py` goes through
the text once. They give the same descriptor (`descsumCreate_eq`), and differ only on texts with a
character that descriptors do not have: one raises, the other gives no checksum.
-/

namespace SubswapProvider.Descriptor

open Checksum

/-- `INPUT_CHARSET` of both files. -/
def INPUT_CHARSET : Text :=
  "0123456789()[],'/*abcdefgh@:$%\x7b\x7dIJKLMNOPQRSTUVWXYZ&+-.;<=>?!^_|~".toList ++
    "ijklmnopqrstuvwxyzABCDEFGH`#\"\\ ".toList

/-- `CHECKSUM_CHARSET[c]`, for an index below 32. -/
def checksumChar (c : Nat) : Char := Bech32.CHARSET.getD c 'q'

/-! ## `utils.py` -/

/-- The register of `_descsum_polymod`. -/
def register : Register where
  width := 5
  kept := 35
  generator := [0xf5dee51989, 0xa9fdca3312, 0x1bab10e32d, 0x3706b1677a, 0x644d626ffd]

/-- `_descsum_polymod`. -/
def descsumPolymod (symbols : List Nat) : Nat := register.run 1 symbols

/-- The loop of `_descsum_expand`, from `groups` and `symbols`. -/
def expandLoop : Text → List Nat → List Nat → Option (List Nat × List Nat)
  | [], groups, symbols => some (groups, symbols)
  | c :: s, groups, symbols =>
    match INPUT_CHARSET.idxOf? c with
    | none => none
    | some v =>
      let symbols := symbols ++ [v &&& 31]
      match groups ++ [v >>> 5] with
      | [g₀, g₁, g₂] => expandLoop s [] (symbols ++ [g₀ * 9 + g₁ * 3 + g₂])
      | groups => expandLoop s groups symbols

/-- `_descsum_expand`. -/
def descsumExpand (s : Text) : Option (List Nat) :=
  match expandLoop s [] [] with
  | none => none
  | some ([g₀], symbols) => some (symbols ++ [g₀])
  | some ([g₀, g₁], symbols) => some (symbols ++ [g₀ * 3 + g₁])
  | some (_, symbols) => some symbols

/-- `descsum_create`. -/
def descsumCreate (s : Text) : Except PyErr Text :=
  match descsumExpand s with
  | none => .error .TypeError
  | some symbols =>
    let checksum := descsumPolymod (symbols ++ [0, 0, 0, 0, 0, 0, 0, 0]) ^^^ 1
    .ok (s ++ '#' :: (List.range 8).map fun i => checksumChar ((checksum >>> (5 * (7 - i))) &&& 31))

/-! ## `descriptor.py` -/

/-- `PolyMod`. -/
def polyMod (c val : Nat) : Nat :=
  let c0 := c >>> 35
  let c := ((c &&& 0x7ffffffff) <<< 5) ^^^ val
  let c := if c0 &&& 1 ≠ 0 then c ^^^ 0xf5dee51989 else c
  let c := if c0 &&& 2 ≠ 0 then c ^^^ 0xa9fdca3312 else c
  let c := if c0 &&& 4 ≠ 0 then c ^^^ 0x1bab10e32d else c
  let c := if c0 &&& 8 ≠ 0 then c ^^^ 0x3706b1677a else c
  if c0 &&& 16 ≠ 0 then c ^^^ 0x644d626ffd else c

/-- The variables of `DescriptorChecksum`. -/
structure Stream where
  c : Nat
  cls : Nat
  clscount : Nat

/-- The loop of `DescriptorChecksum`. -/
def streamLoop : Text → Stream → Option Stream
  | [], t => some t
  | ch :: desc, t =>
    match INPUT_CHARSET.idxOf? ch with
    | none => none
    | some pos =>
      let c := polyMod t.c (pos &&& 31)
      let cls := t.cls * 3 + (pos >>> 5)
      if t.clscount + 1 = 3 then streamLoop desc ⟨polyMod c cls, 0, 0⟩
      else streamLoop desc ⟨c, cls, t.clscount + 1⟩

/-- `DescriptorChecksum`. -/
def descriptorChecksum (desc : Text) : Text :=
  match streamLoop desc ⟨1, 0, 0⟩ with
  | none => []
  | some t =>
    let c := if 0 < t.clscount then polyMod t.c t.cls else t.c
    let c := (List.range 8).foldl (fun c _ => polyMod c 0) c ^^^ 1
    (List.range 8).map fun j => checksumChar ((c >>> (5 * (7 - j))) &&& 31)

/-- `AddChecksum`. -/
def addChecksum (desc : Text) : Text := desc ++ '#' :: descriptorChecksum desc

/-! ## One symbol -/

/-- A bit is added by its generator, whichever way it is looked at. -/
theorem ite_xor (top i c g : Nat) :
    (if top &&& 2 ^ i ≠ 0 then c ^^^ g else c) = c ^^^ if top.testBit i then g else 0 := by
  rw [Nat.and_two_pow]
  cases top.testBit i <;> simp

/-- **The unrolled step is the step over the generators.** -/
theorem polyMod_eq_step (c val : Nat) : polyMod c val = register.step c val := by
  have hstep := ite_xor (c >>> 35)
  unfold polyMod Register.step register
  simp only [Register.feedback]
  rw [← hstep 0, ← hstep 1, ← hstep 2, ← hstep 3, ← hstep 4]
  rfl

theorem foldl_polyMod (n c : Nat) :
    (List.range n).foldl (fun c _ => polyMod c 0) c = register.run c (List.replicate n 0) := by
  induction n with
  | zero => rfl
  | succ n ih =>
    rw [List.range_succ, List.foldl_append, ih, List.replicate_succ', register.run_append,
      List.foldl_cons, List.foldl_nil, polyMod_eq_step]
    rfl

/-! ## The whole text -/

/-- The number of a group that is not full, as the stream counts it. -/
def groupValue (groups : List Nat) : Nat := groups.foldl (fun cls g => cls * 3 + g) 0

/-- The stream has taken in the symbols of the list, and holds its group. -/
structure Follows (groups symbols : List Nat) (t : Stream) : Prop where
  c : t.c = register.run 1 symbols
  cls : t.cls = groupValue groups
  clscount : t.clscount = groups.length
  short : groups.length < 3

/-- **Both loops go through the text side by side.** -/
theorem stream_spec {s : Text} {groups symbols : List Nat} {t : Stream} (h : Follows groups symbols t) :
    (expandLoop s groups symbols = none ∧ streamLoop s t = none) ∨
      ∃ groups' symbols' t', expandLoop s groups symbols = some (groups', symbols') ∧
        streamLoop s t = some t' ∧ Follows groups' symbols' t' := by
  induction s generalizing groups symbols t with
  | nil => exact .inr ⟨groups, symbols, t, rfl, rfl, h⟩
  | cons ch s ih =>
    unfold expandLoop streamLoop
    cases INPUT_CHARSET.idxOf? ch with
    | none => exact .inl ⟨rfl, rfl⟩
    | some v =>
      have hc : polyMod t.c (v &&& 31) = register.run 1 (symbols ++ [v &&& 31]) := by
        rw [h.c, polyMod_eq_step, register.run_append]
        rfl
      -- the group has no, one or two elements; with two it gets full
      match groups, h with
      | [], h =>
        have hcount : ¬ t.clscount + 1 = 3 := by simp [h.clscount]
        simp only [List.nil_append, if_neg hcount]
        apply ih
        exact ⟨hc, by simp [h.cls, groupValue], by simp [h.clscount], by simp⟩
      | [a], h =>
        have hcount : ¬ t.clscount + 1 = 3 := by simp [h.clscount]
        simp only [List.singleton_append, if_neg hcount]
        apply ih
        exact ⟨hc, by simp [h.cls, groupValue], by simp [h.clscount], by simp⟩
      | [a, b], h =>
        have hcount : t.clscount + 1 = 3 := by simp [h.clscount]
        have hcls : t.cls * 3 + (v >>> 5) = a * 9 + b * 3 + (v >>> 5) := by
          rw [h.cls]
          simp only [groupValue, List.foldl_cons, List.foldl_nil]
          omega
        simp only [List.cons_append, List.nil_append, if_pos hcount, hcls, hc]
        apply ih
        refine ⟨?_, rfl, rfl, by simp⟩
        rw [polyMod_eq_step, register.run_append 1 (symbols ++ [v &&& 31])]
        rfl
      | a :: b :: d :: rest, h =>
        have hshort := h.short
        simp only [List.length_cons] at hshort
        omega

/-- The symbols with that of the group that is left. -/
def closed (groups symbols : List Nat) : List Nat :=
  match groups with
  | [g₀] => symbols ++ [g₀]
  | [g₀, g₁] => symbols ++ [g₀ * 3 + g₁]
  | _ => symbols

theorem descsumExpand_eq {s : Text} {groups symbols : List Nat}
    (h : expandLoop s [] [] = some (groups, symbols)) :
    descsumExpand s = some (closed groups symbols) := by
  unfold descsumExpand closed
  rw [h]
  match groups with
  | [] => rfl
  | [_] => rfl
  | [_, _] => rfl
  | _ :: _ :: _ :: _ => rfl

/-- The group that is left is one more symbol in both. -/
theorem leftover_spec {groups symbols : List Nat} {t : Stream} (h : Follows groups symbols t) :
    (if 0 < t.clscount then polyMod t.c t.cls else t.c) = register.run 1 (closed groups symbols) := by
  match groups, h with
  | [], h => simp [closed, h.clscount, h.c]
  | [a], h => simp [closed, h.clscount, h.c, h.cls, groupValue, polyMod_eq_step, register.run_append]
  | [a, b], h => simp [closed, h.clscount, h.c, h.cls, groupValue, polyMod_eq_step, register.run_append]
  | a :: b :: d :: rest, h =>
    have hshort := h.short
    simp only [List.length_cons] at hshort
    omega

theorem expandLoop_some {s : Text} (groups symbols : List Nat) (h : ∀ ch ∈ s, ch ∈ INPUT_CHARSET) :
    (expandLoop s groups symbols).isSome := by
  induction s generalizing groups symbols with
  | nil => rfl
  | cons ch s ih =>
    have hs : ∀ ch ∈ s, ch ∈ INPUT_CHARSET := fun c hc => h c (List.mem_cons_of_mem ch hc)
    obtain ⟨v, hv⟩ : ∃ v, INPUT_CHARSET.idxOf? ch = some v := by
      rw [← Option.isSome_iff_exists, List.isSome_idxOf?]
      exact h ch List.mem_cons_self
    unfold expandLoop
    rw [hv]
    dsimp only
    split
    · exact ih _ _ hs
    · exact ih _ _ hs

/-- **The two implementations agree** on every descriptor text. -/
theorem descsumCreate_eq (s : Text) (h : ∀ ch ∈ s, ch ∈ INPUT_CHARSET) :
    descsumCreate s = .ok (addChecksum s) := by
  have hstart : Follows [] [] ⟨1, 0, 0⟩ := ⟨rfl, rfl, rfl, by simp⟩
  rcases stream_spec (s := s) hstart with ⟨hnone, -⟩ | ⟨groups, symbols, t, hexpand, hstream, hfollows⟩
  · have hsome := expandLoop_some [] [] h
    rw [hnone] at hsome
    cases hsome
  · have hchecksum : descsumPolymod (closed groups symbols ++ [0, 0, 0, 0, 0, 0, 0, 0]) =
        (List.range 8).foldl (fun c _ => polyMod c 0)
          (if 0 < t.clscount then polyMod t.c t.cls else t.c) := by
      rw [leftover_spec hfollows, foldl_polyMod]
      exact register.run_append 1 _ _
    unfold descsumCreate addChecksum descriptorChecksum
    rw [descsumExpand_eq hexpand, hstream]
    dsimp only
    rw [hchecksum]

/-- On any other text one raises, and the other attaches no checksum. -/
theorem descsumCreate_refused {s : Text} (h : ∃ ch ∈ s, ch ∉ INPUT_CHARSET) :
    descsumCreate s = .error .TypeError ∧ addChecksum s = s ++ ['#'] := by
  have hnone {groups symbols : List Nat} : expandLoop s groups symbols = none := by
    obtain ⟨ch, hmem, hch⟩ := h
    induction s generalizing groups symbols with
    | nil => cases hmem
    | cons c s ih =>
      unfold expandLoop
      rcases List.mem_cons.mp hmem with rfl | hmem
      · rw [List.idxOf?_eq_none_iff.mpr hch]
      · cases INPUT_CHARSET.idxOf? c with
        | none => rfl
        | some v =>
          dsimp only
          split
          · exact ih hmem
          · exact ih hmem
  have hstart : Follows [] [] ⟨1, 0, 0⟩ := ⟨rfl, rfl, rfl, by simp⟩
  rcases stream_spec (s := s) hstart with ⟨-, hstream⟩ | ⟨groups, symbols, t, hexpand, -, -⟩
  · constructor
    · unfold descsumCreate descsumExpand
      rw [hnone]
    · unfold addChecksum descriptorChecksum
      rw [hstream]
  · rw [hnone] at hexpand
    cases hexpand

/-- The descriptor of an address. -/
theorem descsumCreate_addr :
    descsumCreate "addr(bcrt1q)".toList = .ok (addChecksum "addr(bcrt1q)".toList) :=
  descsumCreate_eq "addr(bcrt1q)".toList (by
    have hall : "addr(bcrt1q)".toList.all (fun ch => decide (ch ∈ INPUT_CHARSET)) = true := by
      decide +kernel
    intro ch hch
    exact of_decide_eq_true (List.all_eq_true.mp hall ch hch))

end SubswapProvider.Descriptor
