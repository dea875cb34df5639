import Mathlib

/-!
# Bitcoin scripts

The interpreter of witness scripts, for the opcodes of a hash time lock: a script is read byte by byte,
pushes and conditions included, and run on a stack of byte strings. Any other opcode fails when it is
come to.

`encodeNum` and `decodeNum` are the numbers on the stack, `eval_cons` is the rule for one instruction,
and `readOp_direct` and its neighbours read back what the four kinds of pushes write.

The limits on the size of a script, of its stack and of the items it is started with are not part of it.
-/

namespace SubswapProvider.Script

/-! ## Numbers -/

/-- The number that some bytes stand for, the lowest byte first. -/
def unsigned (b : List UInt8) : Nat := Nat.ofDigits 256 (b.map UInt8.toNat)

/-- A number on the stack: the highest bit is the sign. -/
def decodeNum (b : List UInt8) : Int :=
  match b.getLast? with
  | none => 0
  | some top =>
    if top.toNat < 128 then unsigned b else -((unsigned b : Int) - 128 * 256 ^ (b.length - 1))

/-- The shortest bytes of a number that is not negative. -/
def encodeNum (n : Nat) : List UInt8 :=
  let magnitude := (Nat.digits 256 n).map UInt8.ofNat
  match magnitude.getLast? with
  | none => []
  | some top => if top.toNat < 128 then magnitude else magnitude ++ [0]

@[simp] theorem unsigned_append (b c : List UInt8) :
    unsigned (b ++ c) = unsigned b + 256 ^ b.length * unsigned c := by
  unfold unsigned
  rw [List.map_append, Nat.ofDigits_append, List.length_map]

theorem unsigned_magnitude (n : Nat) : unsigned ((Nat.digits 256 n).map UInt8.ofNat) = n := by
  have hdigits : ((Nat.digits 256 n).map UInt8.ofNat).map UInt8.toNat = Nat.digits 256 n := by
    rw [List.map_map]
    conv_rhs => rw [← List.map_id (Nat.digits 256 n)]
    apply List.map_congr_left
    intro d hd
    exact UInt8.toNat_ofNat_of_lt' (Nat.digits_lt_base (by decide) hd)
  unfold unsigned
  rw [hdigits, Nat.ofDigits_digits]

theorem decodeNum_encodeNum (n : Nat) : decodeNum (encodeNum n) = n := by
  have hvalue := unsigned_magnitude n
  unfold encodeNum
  dsimp only
  generalize (Nat.digits 256 n).map UInt8.ofNat = magnitude at hvalue ⊢
  cases hlast : magnitude.getLast? with
  | none =>
    have hnil : magnitude = [] := List.getLast?_eq_none_iff.mp hlast
    rw [← hvalue, hnil]
    rfl
  | some top =>
    dsimp only
    split
    · next hlow =>
      unfold decodeNum
      rw [hlast]
      dsimp only
      rw [if_pos hlow, hvalue]
    · -- a byte of its own takes the sign
      unfold decodeNum
      rw [List.getLast?_concat]
      dsimp only
      rw [if_pos (by decide), unsigned_append, hvalue]
      simp [unsigned]

theorem encodeNum_inj {m n : Nat} : encodeNum m = encodeNum n ↔ m = n := by
  constructor
  · intro h
    have hm := decodeNum_encodeNum m
    rw [h, decodeNum_encodeNum] at hm
    exact_mod_cast hm.symm
  · exact congrArg encodeNum

theorem length_encodeNum_le {n k : Nat} (h : n < 256 ^ k) : (encodeNum n).length ≤ k + 1 := by
  have hdigits : ((Nat.digits 256 n).map UInt8.ofNat).length ≤ k := by
    rw [List.length_map]
    exact (Nat.digits_length_le_iff (by decide) n).mpr h
  unfold encodeNum
  dsimp only
  split
  · exact Nat.zero_le _
  · split
    · omega
    · rw [List.length_append, List.length_singleton]
      omega

/-! ## Instructions -/

/-- The opcodes of a hash time lock. -/
inductive Opcode
  | opIf | opElse | opEndif | opDrop | opSize | opEqual | opEqualverify | opHash160 | opChecksig
  | opChecklocktimeverify
  | other (code : UInt8)
  deriving DecidableEq

def Opcode.ofByte (code : UInt8) : Opcode :=
  if code = 0x63 then .opIf
  else if code = 0x67 then .opElse
  else if code = 0x68 then .opEndif
  else if code = 0x75 then .opDrop
  else if code = 0x82 then .opSize
  else if code = 0x87 then .opEqual
  else if code = 0x88 then .opEqualverify
  else if code = 0xa9 then .opHash160
  else if code = 0xac then .opChecksig
  else if code = 0xb1 then .opChecklocktimeverify
  else .other code

inductive Instr
  | push (data : List UInt8)
  | op (o : Opcode)
  deriving DecidableEq

/-- A push of the next `length` bytes. -/
def readData (length : Nat) (script : List UInt8) : Option (Instr × List UInt8) :=
  if length ≤ script.length then some (.push (script.take length), script.drop length) else none

/-- A push whose length is in the next `width` bytes. -/
def readSized (width : Nat) (script : List UInt8) : Option (Instr × List UInt8) :=
  if width ≤ script.length then readData (unsigned (script.take width)) (script.drop width) else none

/-- The first instruction of a script, and what follows it. -/
def readOp : List UInt8 → Option (Instr × List UInt8)
  | [] => none
  | code :: script =>
    if code.toNat ≤ 0x4b then readData code.toNat script
    else if code = 0x4c then readSized 1 script
    else if code = 0x4d then readSized 2 script
    else if code = 0x4e then readSized 4 script
    else if code = 0x4f then some (.push [0x81], script)
    else if 0x51 ≤ code.toNat ∧ code.toNat ≤ 0x60 then some (.push [code - 0x50], script)
    else some (.op (.ofByte code), script)

theorem length_of_readData {length : Nat} {script rest : List UInt8} {i : Instr}
    (h : readData length script = some (i, rest)) : rest.length ≤ script.length := by
  unfold readData at h
  split at h
  · cases h
    rw [List.length_drop]
    omega
  · cases h

theorem length_of_readSized {width : Nat} {script rest : List UInt8} {i : Instr}
    (h : readSized width script = some (i, rest)) : rest.length ≤ script.length := by
  unfold readSized at h
  split at h
  · have hdata := length_of_readData h
    rw [List.length_drop] at hdata
    omega
  · cases h

theorem length_of_readOp {script rest : List UInt8} {i : Instr}
    (h : readOp script = some (i, rest)) : rest.length < script.length := by
  cases script with
  | nil => cases h
  | cons code script =>
    have hle : rest.length ≤ script.length := by
      unfold readOp at h
      dsimp only at h
      split at h
      · exact length_of_readData h
      · split at h
        · exact length_of_readSized h
        · split at h
          · exact length_of_readSized h
          · split at h
            · exact length_of_readSized h
            · split at h
              · cases h
                exact le_rfl
              · split at h <;> cases h <;> exact le_rfl
    rw [List.length_cons]
    omega

/-! ## Running a script -/

/-- What a script may ask of the transaction that spends an output. -/
structure Context where
  hash160 : List UInt8 → List UInt8
  /-- Whether a signature of the transaction is valid for a public key. -/
  checkSig : List UInt8 → List UInt8 → Bool
  lockTime : Nat
  sequence : Nat

/-- From here on a lock time is a time and not a block height. -/
def LOCKTIME_THRESHOLD : Nat := 500000000

def SEQUENCE_FINAL : Nat := 0xffffffff

/-- What `CHECKLOCKTIMEVERIFY` asks for: the same kind of lock time, not before `n`, in an input that is not
final. -/
def Context.Reached (ctx : Context) (n : Int) : Prop :=
  0 ≤ n ∧ (n < LOCKTIME_THRESHOLD ↔ ctx.lockTime < LOCKTIME_THRESHOLD) ∧ n ≤ ctx.lockTime ∧
    ctx.sequence ≠ SEQUENCE_FINAL

instance (ctx : Context) (n : Int) : Decidable (ctx.Reached n) :=
  inferInstanceAs (Decidable (_ ∧ _ ∧ _ ∧ _))

/-- The stack, its top first, and the conditions a script is in, the innermost first. -/
structure State where
  stack : List (List UInt8)
  conditions : List Bool

/-- Whether the current branch is one that is run. -/
def State.runs (st : State) : Bool := st.conditions.all id

/-- Neither zero nor the negative zero. -/
def truthy (item : List UInt8) : Bool :=
  match item.reverse with
  | [] => false
  | top :: lower => (top ≠ 0 ∧ top ≠ 0x80) || lower.any (· ≠ 0)

def boolItem (b : Bool) : List UInt8 := if b then [1] else []

@[simp] theorem truthy_boolItem (b : Bool) : truthy (boolItem b) = b := by
  cases b <;> decide

/-- An opcode that works on the stack alone. -/
def Opcode.run (ctx : Context) : Opcode → List (List UInt8) → Option (List (List UInt8))
  | .opDrop, _ :: stack => some stack
  | .opSize, x :: stack => some (encodeNum x.length :: x :: stack)
  | .opEqual, x :: y :: stack => some (boolItem (x = y) :: stack)
  | .opEqualverify, x :: y :: stack => if x = y then some stack else none
  | .opHash160, x :: stack => some (ctx.hash160 x :: stack)
  | .opChecksig, key :: sig :: stack => some (boolItem (ctx.checkSig sig key) :: stack)
  | .opChecklocktimeverify, n :: stack =>
    if n.length ≤ 5 ∧ ctx.Reached (decodeNum n) then some (n :: stack) else none
  | _, _ => none

/-- One instruction. -/
def exec (ctx : Context) (st : State) : Instr → Option State
  | .push data =>
    if 520 < data.length then none
    else some (if st.runs then { st with stack := data :: st.stack } else st)
  | .op .opIf =>
    if st.runs then
      match st.stack with
      | [] => none
      | x :: stack => some { stack := stack, conditions := truthy x :: st.conditions }
    else some { st with conditions := false :: st.conditions }
  | .op .opElse =>
    match st.conditions with
    | [] => none
    | c :: conditions => some { st with conditions := (!c) :: conditions }
  | .op .opEndif =>
    match st.conditions with
    | [] => none
    | _ :: conditions => some { st with conditions := conditions }
  | .op o =>
    if st.runs then (o.run ctx st.stack).map fun stack => { st with stack := stack } else some st

/-- The instructions one after another. -/
def run (ctx : Context) (instrs : List Instr) (st : State) : Option State := instrs.foldlM (exec ctx) st

/-- A script from a state on. -/
def eval (ctx : Context) (script : List UInt8) (st : State) : Option State :=
  if script = [] then some st
  else
    match _h : readOp script with
    | none => none
    | some (i, rest) => (exec ctx st i).bind (eval ctx rest)
termination_by script.length
decreasing_by exact length_of_readOp _h

/-- **A witness satisfies a script**: the script gets through and leaves one item, which is true. -/
def Satisfies (ctx : Context) (script : List UInt8) (witness : List (List UInt8)) : Prop :=
  ∃ item, eval ctx script ⟨witness.reverse, []⟩ = some ⟨[item], []⟩ ∧ truthy item = true

/-! ## Rules -/

section

variable {ctx : Context} {st : State} {script rest : List UInt8} {i : Instr}

@[simp] theorem eval_nil (ctx : Context) (st : State) : eval ctx [] st = some st := by
  unfold eval
  rw [if_pos rfl]

theorem eval_cons (h : readOp script = some (i, rest)) :
    eval ctx script st = (exec ctx st i).bind (eval ctx rest) := by
  have hne : script ≠ [] := by
    rintro rfl
    cases h
  conv_lhs => unfold eval
  rw [if_neg hne]
  split
  · next hnone =>
    rw [h] at hnone
    cases hnone
  · next i' rest' hsome =>
    rw [h] at hsome
    cases hsome
    rfl

@[simp] theorem run_nil (ctx : Context) (st : State) : run ctx [] st = some st := rfl

theorem run_cons {st' : State} (h : exec ctx st i = some st') (instrs : List Instr) :
    run ctx (i :: instrs) st = run ctx instrs st' := by
  unfold run
  rw [List.foldlM_cons, h]
  rfl

theorem run_fails (h : exec ctx st i = none) (instrs : List Instr) :
    run ctx (i :: instrs) st = none := by
  unfold run
  rw [List.foldlM_cons, h]
  rfl

/-- A push in a branch that is run. -/
theorem exec_push {data : List UInt8} (h : data.length ≤ 520) (hruns : st.runs = true) :
    exec ctx st (.push data) = some { st with stack := data :: st.stack } := by
  show (if 520 < data.length then none else some (if st.runs then _ else _)) = _
  rw [if_neg (by omega), if_pos hruns]

/-- One in a branch that is not. -/
theorem exec_push_skipped {data : List UInt8} (h : data.length ≤ 520) (hruns : st.runs = false) :
    exec ctx st (.push data) = some st := by
  show (if 520 < data.length then none else some (if st.runs then _ else _)) = _
  rw [if_neg (by omega), hruns]
  rfl

theorem readData_append (data rest : List UInt8) :
    readData data.length (data ++ rest) = some (.push data, rest) := by
  unfold readData
  rw [if_pos (by simp), List.take_left, List.drop_left]

theorem readSized_append {width : Nat} {length data : List UInt8} (hwidth : length.length = width)
    (hlength : unsigned length = data.length) (rest : List UInt8) :
    readSized width (length ++ (data ++ rest)) = some (.push data, rest) := by
  subst hwidth
  unfold readSized
  rw [if_pos (by simp), List.take_left, List.drop_left, hlength]
  exact readData_append data rest

/-- A byte that is its own length, in front of the data. -/
theorem readOp_direct {code : UInt8} {data : List UInt8} (hcode : code.toNat = data.length)
    (hlength : data.length ≤ 0x4b) (rest : List UInt8) :
    readOp (code :: (data ++ rest)) = some (.push data, rest) := by
  unfold readOp
  dsimp only
  rw [if_pos (by omega), hcode]
  exact readData_append data rest

/-- A length of one, two or four bytes behind an opcode of its own. -/
theorem readOp_sized {code : UInt8} {width : Nat}
    (hcode : code = 0x4c ∧ width = 1 ∨ code = 0x4d ∧ width = 2 ∨ code = 0x4e ∧ width = 4)
    {length data : List UInt8} (hwidth : length.length = width)
    (hlength : unsigned length = data.length) (rest : List UInt8) :
    readOp (code :: (length ++ (data ++ rest))) = some (.push data, rest) := by
  have hsized := readSized_append hwidth hlength rest
  rcases hcode with ⟨rfl, rfl⟩ | ⟨rfl, rfl⟩ | ⟨rfl, rfl⟩ <;> exact hsized

/-- A small number. -/
theorem readOp_small {n : UInt8} (hpos : 0 < n.toNat) (hle : n.toNat ≤ 16) (rest : List UInt8) :
    readOp ((0x50 + n) :: rest) = some (.push [n], rest) := by
  have hall : ∀ m < 17, 0 < m → ∀ rest, readOp ((0x50 + UInt8.ofNat m) :: rest)
      = some (.push [UInt8.ofNat m], rest) := by
    intro m hm hpos rest
    interval_cases m <;> rfl
  have hn := hall n.toNat (by omega) hpos rest
  rw [UInt8.ofNat_toNat] at hn
  exact hn

theorem readOp_op {code : UInt8} (hcode : 0x60 < code.toNat) (rest : List UInt8) :
    readOp (code :: rest) = some (.op (.ofByte code), rest) := by
  have hne : ∀ c : UInt8, c.toNat ≤ 0x60 → code ≠ c := by
    rintro c hc rfl
    omega
  unfold readOp
  dsimp only
  rw [if_neg (by omega), if_neg (hne _ (by decide)), if_neg (hne _ (by decide)),
    if_neg (hne _ (by decide)), if_neg (hne _ (by decide)), if_neg (by omega)]

end

end SubswapProvider.Script
